import MiniGateway.Properties.Answers

/-!
# Properties — Cross origin

`handle_request` does in line what `CorsService` does around a service, and differs from it in
three ways.

* It looks for a preflight behind the router, methods lists and all, and takes a missing origin
  for the empty one (`preflight_answered_iff`).
* It has no answer for a preflight from an origin that is not allowed: such a request goes on
  through the pipeline, and is never refused with a 403 (`preflight_never_refused`).
* It reads the origin of an actual response from the response.  The origin of the request is
  named only if the upstream, or the stored answer, names it by itself (`carries_origin_iff`).
-/

namespace MiniGateway.Gateway

open Http RateLimit

variable {ρ lim κ υ δ : Type} {L : Libraries ρ lim κ υ δ} {g : Gateway ρ lim κ υ δ}

/-! ### Preflights that are answered -/

/-- The gateway answers itself, with what `build_preflight_response` builds for the origin. -/
def AnswersPreflight (cors : CorsLayer) (origin : Text) (h : Handled lim κ υ δ) : Prop :=
  ∃ r, cors.buildPreflightResponse origin = .ok r ∧ h.reply = .ok r ∧ h.events = []

/-- The request comes from an allowed origin, and some route's pattern accepts its path. -/
def WantsPreflight (L : Libraries ρ lim κ υ δ) (g : Gateway ρ lim κ υ δ) (cors : CorsLayer)
    (req : Request) : Prop :=
  originOf req.headers ≠ [] ∧ cors.isOriginAllowed (originOf req.headers) = true ∧
    ∃ entry ∈ g.router.routes, L.regex.isMatch entry.pathRegex req.uri.path = true

/-- Some route accepts the request's path and method, and the upstream of the first one that does
resolves. -/
def Routable (L : Libraries ρ lim κ υ δ) (g : Gateway ρ lim κ υ δ) (req : Request)
    (w : World lim κ υ δ) : Prop :=
  ∃ entry url, g.router.routes.find? (Router.entryAccepts L.regex req) = some entry ∧
    (g.router.resolveUpstream w.discovery entry.config.upstream).1 = .ok url

/-- The request id is not written over the origin, and the configured texts are legal in the
headers of the answer. -/
def Answerable (g : Gateway ρ lim κ υ δ) (cors : CorsLayer) (id : Text) (req : Request) : Prop :=
  originOf (g.stampRequestId id req).headers = originOf req.headers ∧
    ∃ r, cors.buildPreflightResponse (originOf req.headers) = .ok r

/-- A routable request has a match, and no other has. -/
theorem routable_iff (req : Request) (w : World lim κ υ δ) :
    Routable L g req w ↔
      ∃ route d, g.router.matchRoute L.regex req w.discovery = (some route, d) := by
  rw [Router.matchRoute_eq_find, Routable]
  cases hf : g.router.routes.find? (Router.entryAccepts L.regex req) with
  | none => simp
  | some entry =>
      rw [Option.elim, Router.answer]
      rcases hres : g.router.resolveUpstream w.discovery entry.config.upstream with ⟨_ | url, d⟩
      · refine ⟨?_, ?_⟩
        · rintro ⟨entry', url, h, hurl⟩
          cases h
          rw [hres] at hurl
          cases hurl
        · rintro ⟨route, d', h⟩
          cases h
      · exact ⟨fun _ => ⟨_, _, rfl⟩, fun _ => ⟨entry, url, rfl, by rw [hres]⟩⟩

/-- The pattern of the route of a routable request accepts its path. -/
theorem Routable.isMatch {req : Request} {w : World lim κ υ δ} (h : Routable L g req w) :
    ∃ entry ∈ g.router.routes, L.regex.isMatch entry.pathRegex req.uri.path = true := by
  obtain ⟨entry, url, hf, -⟩ := h
  have hacc := List.find?_some hf
  rw [Router.entryAccepts, Bool.and_eq_true] at hacc
  exact ⟨entry, List.mem_of_find?_eq_some hf, hacc.1⟩

/-- **Which preflights are answered**: those of an allowed origin that have a route. -/
theorem answersPreflight_iff {cors : CorsLayer} (hc : g.corsLayer = some cors) {req : Request}
    (hm : req.method = .options) (client : SocketAddr) (id : Text) (w : World lim κ υ δ) :
    AnswersPreflight cors (originOf req.headers) (g.handleRequest L req client id w) ↔
      Routable L g req w ∧ Answerable g cors id req ∧
        cors.isOriginAllowed (originOf req.headers) = true := by
  rw [routable_iff]
  rcases hmatch : g.router.matchRoute L.regex req w.discovery with ⟨_ | route, d⟩
  · -- the 404 is no 204
    refine iff_of_false ?_ fun h => ?_
    · rintro ⟨r, hr, hreply, -⟩
      rw [handleRequest_unrouted req client id hmatch] at hreply
      obtain ⟨r₀, hr₀, hs₀⟩ := notFound_status
      have h204 := (CorsLayer.buildPreflightResponse_spec hr).1
      have hsame : r₀ = r := Except.ok.inj (hr₀.symm.trans hreply)
      rw [hsame] at hs₀
      exact absurd (hs₀.symm.trans h204) (by decide)
    · obtain ⟨⟨route, d', h⟩, -⟩ := h
      cases h
  · rw [handleRequest_routed req client id hmatch]
    have hm' : (g.stampRequestId id req).method = .options := by rw [stampRequestId_method, hm]
    cases ho : cors.isOriginAllowed (originOf (g.stampRequestId id req).headers) with
    | true =>
        have hp : g.preflight (g.stampRequestId id req) =
            some (cors.buildPreflightResponse (originOf (g.stampRequestId id req).headers)) := by
          rw [preflight, hc]
          simp only [hm', ho, if_true]
        rw [routed, hp]
        refine ⟨?_, ?_⟩
        · rintro ⟨r, hr, hreply, -⟩
          have hsame := CorsLayer.buildPreflightResponse_inj hreply hr
          rw [hsame] at ho
          exact ⟨⟨route, d, rfl⟩, ⟨hsame, r, hr⟩, ho⟩
        · rintro ⟨-, ⟨hsame, r, hr⟩, -⟩
          exact ⟨r, hr, by rw [hsame]; exact hr, rfl⟩
    | false =>
        have hp : g.preflight (g.stampRequestId id req) = none := by
          rw [preflight, hc]
          simp only [hm', ho, if_true, Bool.false_eq_true, if_false]
        refine iff_of_false ?_ ?_
        · rintro ⟨r, hr, hreply, hevents⟩
          obtain ⟨r', hr', h400, -⟩ := routed_own route (g.stampRequestId id req) _ L.tokens hp
            fun e he => by rw [hevents] at he; exact absurd he List.not_mem_nil
          have hsame : r' = r := Except.ok.inj (hr'.symm.trans hreply)
          have h204 := (CorsLayer.buildPreflightResponse_spec hr).1
          rw [hsame] at h400
          exact absurd (h204 ▸ h400) (by decide)
        · rintro ⟨-, ⟨hsame, -⟩, hallowed⟩
          rw [hsame, hallowed] at ho
          cases ho

/-- **When preflights are answered as they should be.**  An `OPTIONS` request is answered exactly
if it comes from an allowed origin and some route's pattern accepts its path — if and only if:

* in that case a route accepts its method too, with an upstream that resolves, and nothing
  stands in the way of the answer;
* where the origin is missing and the layer allows the empty one, there is no such route. -/
theorem preflight_answered_iff {cors : CorsLayer} (hc : g.corsLayer = some cors) {req : Request}
    (hm : req.method = .options) (client : SocketAddr) (id : Text) (w : World lim κ υ δ) :
    (AnswersPreflight cors (originOf req.headers) (g.handleRequest L req client id w) ↔
      WantsPreflight L g cors req) ↔
    (WantsPreflight L g cors req → Routable L g req w ∧ Answerable g cors id req) ∧
    (originOf req.headers = [] → cors.isOriginAllowed [] = true →
      ¬ (Routable L g req w ∧ Answerable g cors id req)) := by
  rw [answersPreflight_iff hc hm]
  refine ⟨fun h => ⟨fun hw => ?_, fun hempty hall hr => ?_⟩, fun h => ⟨fun hr => ?_, fun hw => ?_⟩⟩
  · obtain ⟨hr, ha, -⟩ := h.mpr hw
    exact ⟨hr, ha⟩
  · rw [← hempty] at hall
    exact (h.mp ⟨hr.1, hr.2, hall⟩).1 hempty
  · obtain ⟨hroute, ha, hall⟩ := hr
    refine ⟨fun hempty => ?_, hall, hroute.isMatch⟩
    rw [hempty] at hall
    exact h.2 hempty hall ⟨hroute, ha⟩
  · obtain ⟨hr, ha⟩ := h.1 hw
    exact ⟨hr, ha, hw.2.1⟩

/-- The routes, with a CORS section. -/
def crossConfig (routes : List RouteConfig) (cors : CorsConfig) : GatewayConfig :=
  { plainConfig routes none none with cors := some cors }

def crossGateway (routes : List RouteConfig) (cors : CorsConfig) :
    Gateway Regex.Re (Text → Nat) (List (Text × CachedResponse)) Unit Unit :=
  { plainGateway routes none none none with
    config := crossConfig routes cors
    corsLayer := some (CorsLayer.new cors) }

theorem new_cross (J : TokenDecoder) (routes : List RouteConfig) {cors : CorsConfig}
    (hen : cors.enabled = true) : new (plainLibraries J) (crossConfig routes cors) () =
      .ok (crossGateway routes cors, ()) := by
  have hrouter : Router.new (plainLibraries J).regex (crossConfig routes cors).routes =
      .ok (Router.ofRoutes routes : Router Regex.Re Unit) := Router.new_reference routes
  have hcors : corsLayerOf (crossConfig routes cors) = some (CorsLayer.new cors) := by
    rw [corsLayerOf, crossConfig]
    simp only [hen, if_true]
  rw [new, hrouter, hcors]
  rfl

/-- Every origin is allowed. -/
def openCors : CorsConfig where
  enabled := true
  allowOrigins := ["*".toList]
  allowMethods := ["GET".toList, "POST".toList, "PUT".toList, "DELETE".toList, "OPTIONS".toList]
  allowHeaders := ["*".toList]
  allowCredentials := false
  maxAge := some 3600
  exposeHeaders := none

/-- One origin is allowed. -/
def closedCors : CorsConfig := { openCors with allowOrigins := ["https://example.com".toList] }

/-- `https://example.com` and another origin. -/
def exampleOrigin : HeaderValue := ⟨Text.utf8 "https://example.com", by decide⟩
def evilOrigin : HeaderValue := ⟨Text.utf8 "https://evil.com", by decide⟩

/-- A request from an origin. -/
def fromOrigin (method : Method) (path : Text) (origin : HeaderValue) : Request :=
  { Router.plainGet path with method := method, headers := ⟨[(originName, origin)]⟩ }

/-- Without a methods list, a preflight from an allowed origin is answered. -/
theorem preflight_answered_example :
    AnswersPreflight (CorsLayer.new openCors)
        (originOf (fromOrigin .options "/api/echo" exampleOrigin).headers)
        ((crossGateway apiRoutes openCors).handleRequest tokenLibraries
          (fromOrigin .options "/api/echo" exampleOrigin) peer "id" (freshWorld 0)) ↔
      WantsPreflight tokenLibraries (crossGateway apiRoutes openCors) (CorsLayer.new openCors)
        (fromOrigin .options "/api/echo" exampleOrigin) := by
  refine (preflight_answered_iff rfl rfl peer "id" (freshWorld 0)).mpr
    ⟨fun _ => ⟨⟨_, _, rfl, rfl⟩, rfl, _, rfl⟩, fun h => ?_⟩
  exact absurd h (by decide)

/-- The routes of the example configuration: the methods list has no `OPTIONS`. -/
def methodRoutes : List RouteConfig :=
  [{ Router.plainRoute "api" "/api/**" "http://localhost:3000" with
      methods := some ["GET".toList, "POST".toList, "PUT".toList, "DELETE".toList] }]

/-- The methods list keeps a preflight from an allowed origin from being answered. -/
theorem preflight_unanswered :
    new tokenLibraries (crossConfig methodRoutes openCors) () =
        .ok (crossGateway methodRoutes openCors, ()) ∧
    ¬ (AnswersPreflight (CorsLayer.new openCors)
        (originOf (fromOrigin .options "/api/echo" exampleOrigin).headers)
        ((crossGateway methodRoutes openCors).handleRequest tokenLibraries
          (fromOrigin .options "/api/echo" exampleOrigin) peer "id" (freshWorld 0)) ↔
      WantsPreflight tokenLibraries (crossGateway methodRoutes openCors) (CorsLayer.new openCors)
        (fromOrigin .options "/api/echo" exampleOrigin)) := by
  refine ⟨new_cross _ _ rfl, fun h => ?_⟩
  have hwants : WantsPreflight tokenLibraries (crossGateway methodRoutes openCors)
      (CorsLayer.new openCors) (fromOrigin .options "/api/echo" exampleOrigin) :=
    ⟨by decide, by decide, _, List.mem_cons_self, by decide⟩
  obtain ⟨⟨entry, url, hf, -⟩, -⟩ :=
    (answersPreflight_iff rfl rfl peer "id" (freshWorld 0)).mp (h.mpr hwants)
  have hnone : (crossGateway methodRoutes openCors).router.routes.find? (Router.entryAccepts
      tokenLibraries.regex (fromOrigin .options "/api/echo" exampleOrigin)) = none := by
    rw [List.find?_eq_none]
    intro entry' he
    rw [List.mem_singleton.mp he]
    decide
  rw [hnone] at hf
  cases hf

/-! ### Preflights that are refused -/

/-- The gateway refuses the request with a 403 of its own: nothing is sent, and the limiter is not
asked. -/
def RefusesPreflight (h : Handled lim κ υ δ) : Prop :=
  (∃ r, h.reply = .ok r ∧ r.status.code = 403) ∧ (∀ out, .send out ∉ h.events) ∧
    ticks h.events = []

/-- Only a `GET` is looked up in the cache. -/
theorem cached_of_ne_get (route : RouteMatch) (metrics : RequestMetrics) {req : Request}
    (w : World lim κ υ δ) (hm : req.method ≠ .get) :
    g.cached route metrics req w = g.forward route metrics req w := by
  rw [cached]
  cases g.cacheLayer with
  | none => rfl
  | some cache =>
      simp only [hm, decide_false, Bool.and_false, Bool.false_eq_true, if_false]

/-- Nothing but a `GET` is looked up, all the way from the limiter on. -/
theorem lookup_not_mem_limited (route : RouteMatch) (metrics : RequestMetrics) {req : Request}
    (w : World lim κ υ δ) (hm : req.method ≠ .get) (key : Text) (hit : Bool) :
    .lookup key hit ∉ (g.limited route metrics req w).events := by
  have hno : ∀ w' : World lim κ υ δ,
      .lookup key hit ∉ (g.cached route metrics req w').events := by
    intro w' he
    rw [cached_of_ne_get route metrics w' hm] at he
    rcases ProxyClient.proxy_events _ _ _ _ _ he with ⟨ms, h⟩ | ⟨out, -, h⟩ <;> cases h
  rcases limited_cases route metrics req w g with ⟨-, h⟩ | ⟨rl, l, -, -, h⟩ | ⟨rl, l, -, -, h⟩
  · rw [h]
    exact hno w
  · rw [h]
    exact fun he => hno _ (List.mem_of_ne_of_mem (by simp) he)
  · rw [h]
    exact fun he => absurd (List.mem_singleton.mp he) (by simp)

/-- **An `OPTIONS` request is never refused with a 403 of the gateway's own.** -/
theorem not_refusesPreflight {req : Request} (hm : req.method = .options) (client : SocketAddr)
    (id : Text) (w : World lim κ υ δ) :
    ¬ RefusesPreflight (g.handleRequest L req client id w) := by
  rintro ⟨⟨r, hreply, h403⟩, hsend, -⟩
  rcases hmatch : g.router.matchRoute L.regex req w.discovery with ⟨_ | route, d⟩
  · rw [handleRequest_unrouted req client id hmatch] at hreply
    obtain ⟨r₀, hr₀, hs₀⟩ := notFound_status
    obtain rfl : r₀ = r := Except.ok.inj (hr₀.symm.trans hreply)
    exact absurd (hs₀.symm.trans h403) (by decide)
  · rw [handleRequest_routed req client id hmatch] at hreply hsend
    cases hp : g.preflight (g.stampRequestId id req) with
    | some reply =>
        rw [routed, hp] at hreply
        exact absurd ((preflight_reply hp r hreply).symm.trans h403) (by decide)
    | none =>
        -- nothing is looked up, so nothing but a send could serve the request
        obtain ⟨r', hr', -, hne, -⟩ := routed_own route _ _ L.tokens hp fun e he hs => by
          obtain ⟨-, req', ha, hr⟩ := routed_of_mem he
          have hget : req'.method ≠ .get := by
            obtain ⟨headers, rfl⟩ := authenticate_headers ha
            rw [stampRequestId_method, hm]
            decide
          cases e with
          | send out => exact hsend out he
          | tick key admitted => exact hs
          | sleep ms => exact hs
          | lookup key hit =>
              rw [hr] at he
              exact lookup_not_mem_limited route _ _ hget key hit he
        obtain rfl : r' = r := Except.ok.inj (hr'.symm.trans hreply)
        exact hne h403

/-- **A refused preflight does not stay at the gateway.**  `CorsService` answers an `OPTIONS`
request from an origin that is not allowed with a 403, whatever it wraps; `handle_request` never
does. -/
theorem preflight_never_refused (L : Libraries ρ lim κ υ δ) (g : Gateway ρ lim κ υ δ)
    {req : Request} (hm : req.method = .options) (client : SocketAddr) (id : Text)
    (w : World lim κ υ δ) : ∀ cors, g.corsLayer = some cors → originOf req.headers ≠ [] →
      cors.isOriginAllowed (originOf req.headers) = false →
      (∀ (σ ε : Type) (inner : Service σ ε) (s : σ),
        (∃ r, (CorsService.call ⟨inner, cors⟩ s req).1 = .ok (.ok r) ∧ r.status.code = 403) ∧
          (CorsService.call ⟨inner, cors⟩ s req).2 = s) ∧
      ¬ RefusesPreflight (g.handleRequest L req client id w) := by
  intro cors _ _ ho
  exact ⟨fun σ ε inner s => CorsService.call_forbidden ⟨inner, cors⟩ s hm ho,
    not_refusesPreflight hm client id w⟩

/-- A preflight from another origin than the one that is allowed. -/
theorem preflight_never_refused_evil :
    ¬ RefusesPreflight ((crossGateway apiRoutes closedCors).handleRequest tokenLibraries
      (fromOrigin .options "/api/echo" evilOrigin) peer "id" (freshWorld 0)) :=
  (preflight_never_refused tokenLibraries (crossGateway apiRoutes closedCors) rfl peer "id"
    (freshWorld 0) (CorsLayer.new closedCors) rfl (by decide) (by decide)).2

/-- It is sent upstream. -/
theorem refused_preflight_sent :
    new tokenLibraries (crossConfig apiRoutes closedCors) () =
        .ok (crossGateway apiRoutes closedCors, ()) ∧
    (CorsLayer.new closedCors).isOriginAllowed
        (originOf (fromOrigin .options "/api/echo" evilOrigin).headers) = false ∧
    (∃ out, .send out ∈ ((crossGateway apiRoutes closedCors).handleRequest tokenLibraries
      (fromOrigin .options "/api/echo" evilOrigin) peer "id" (freshWorld 0)).events) ∧
    ¬ RefusesPreflight ((crossGateway apiRoutes closedCors).handleRequest tokenLibraries
      (fromOrigin .options "/api/echo" evilOrigin) peer "id" (freshWorld 0)) :=
  ⟨new_cross _ _ rfl, by decide, ⟨_, List.mem_cons_self⟩, not_refusesPreflight rfl peer "id" _⟩

/-! ### Actual responses -/

/-- What the cache stage finds for a request. -/
def found (g : Gateway ρ lim κ υ δ) (route : RouteMatch) (req : Request) (w : World lim κ υ δ) :
    Option CachedResponse :=
  match g.cacheLayer with
  | some cache =>
      if route.cacheEnabled && decide (req.method = .get) then
        match (cache.backend.get w.cache (cache.buildKey req)).1 with
        | .ok answer => answer
        | .error _ => none
      else none
  | none => none

/-- The upstream's response to a request, if there is one. -/
def relayed (g : Gateway ρ lim κ υ δ) (route : RouteMatch) (req : Request)
    (w : World lim κ υ δ) : Option Response :=
  (g.proxyClient.proxy req route ⟨req.method.text, req.uri.path, route.routeId⟩
    w.upstream).1.result.toOption

/-- The upstream's response names the origin: in its own `origin` header, if the layer allows what
is in there, and otherwise in the one `access-control-allow-origin` it came with. -/
def NamesOrigin (cors : CorsLayer) (origin : Text) (response : Response) : Prop :=
  if originOf response.headers ≠ [] ∧ cors.isOriginAllowed (originOf response.headers) = true then
    originOf response.headers = origin ∧ cors.Exposable
  else CarriesOrigin origin response

/-- The stored answer names the origin: in the one `access-control-allow-origin` among its lines,
all of which are legal. -/
def StoresOrigin (origin : Text) (cached : CachedResponse) : Prop :=
  cached.Legal ∧ ∃ v, HeaderMap.valuesIn cached.headers CorsLayer.allowOrigin = [v] ∧
    v.toStr = some origin

/-- **A hit** names the origin exactly if what is stored did. -/
theorem hitReply_carries_iff (origin : Text) (cached : CachedResponse) :
    (∃ r, hitReply cached = .ok r ∧ CarriesOrigin origin r) ↔ StoresOrigin origin cached := by
  have hne : CorsLayer.allowOrigin ≠ cacheName := by decide
  have hvalues {r : Response} (hr : hitReply cached = .ok r) :
      r.headers.getAll CorsLayer.allowOrigin =
        HeaderMap.valuesIn cached.headers CorsLayer.allowOrigin := by
    rw [(hitReply_repeated hr).headers, if_neg hne, List.append_nil]
  refine ⟨fun ⟨r, hr, v, hv, horigin⟩ => ?_, fun ⟨hlegal, v, hv, horigin⟩ => ?_⟩
  · exact ⟨(hitReply_ok_iff cached).mp ⟨r, hr⟩, v, (hvalues hr).symm.trans hv, horigin⟩
  · obtain ⟨r, hr⟩ := (hitReply_ok_iff cached).mpr hlegal
    exact ⟨r, hr, v, (hvalues hr).trans hv, horigin⟩

theorem CarriesOrigin.inj {o o' : Text} {r : Response} (h : CarriesOrigin o r)
    (h' : CarriesOrigin o' r) : o = o' := by
  obtain ⟨v, hall, hv⟩ := h
  obtain ⟨v', hall', hv'⟩ := h'
  rw [hall] at hall'
  cases hall'
  exact Option.some.inj (hv.symm.trans hv')

/-- **The in-line CORS step** names the origin exactly if the response did. -/
theorem withCors_carries_iff {cors : CorsLayer} (hc : g.corsLayer = some cors) (origin : Text)
    (response : Response) :
    (∃ r, g.withCors response = .ok r ∧ CarriesOrigin origin r) ↔
      NamesOrigin cors origin response := by
  rw [withCors, hc, NamesOrigin]
  simp only [Bool.and_eq_true, Bool.not_eq_true', List.isEmpty_eq_false_iff]
  split
  · rcases cors.addCorsHeaders_cases response response.headers with ⟨r, hr, hann, hex⟩ |
        ⟨hpanic, hno⟩
    · have hcarry := hann.origin
      rw [hr]
      refine ⟨?_, ?_⟩
      · rintro ⟨r', hr', hcarry'⟩
        cases hr'
        exact ⟨CarriesOrigin.inj hcarry hcarry', hex⟩
      · rintro ⟨rfl, -⟩
        exact ⟨r, rfl, hcarry⟩
    · rw [hpanic]
      refine iff_of_false ?_ fun h => hno h.2
      rintro ⟨r, h, -⟩
      cases h
  · refine ⟨?_, fun h => ⟨response, rfl, h⟩⟩
    rintro ⟨r, hr, hcarry⟩
    cases hr
    exact hcarry

/-- An error of the gateway names no origin. -/
theorem not_carries_plainReply {status : Nat} {name value body origin : Text}
    (hname : HeaderName.parse name ≠ some CorsLayer.allowOrigin) {r : Response}
    (hr : plainReply status name value body = .ok r) : ¬ CarriesOrigin origin r := by
  have hnone : r.headers.getAll CorsLayer.allowOrigin = [] := by
    have hempty : (Builder.new.status status).Gives fun p => p.2 = .empty := by
      intro p hp
      rw [Builder.status] at hp
      split at hp
      · rename_i q s hq hs
        cases hq
        cases hp
        rfl
      · cases hp
      · cases hp
    refine Builder.Gives.body (P := fun p => p.2.getAll CorsLayer.allowOrigin = []) ?_ hr
    refine hempty.header fun p n v hp hn _ => ?_
    have hne : n ≠ CorsLayer.allowOrigin := fun h => hname (by rw [hn, h])
    simp only [hp, HeaderMap.getAll_append, if_neg hne]
    rfl
  rintro ⟨v, hall, -⟩
  rw [hnone] at hall
  cases hall

theorem unauthorized_not_carries {message origin : Text} {r : Response}
    (h : unauthorized message = .ok r) : ¬ CarriesOrigin origin r :=
  not_carries_plainReply (by decide) h

theorem tooManyRequests_not_carries {origin : Text} {r : Response}
    (h : tooManyRequests = .ok r) : ¬ CarriesOrigin origin r :=
  not_carries_plainReply (by decide) h

section Stages

variable (route : RouteMatch) (req : Request) (w : World lim κ υ δ)

/-- **The reply of the cache stage**: what was found, or what the upstream answers. -/
theorem cached_reply (metrics : RequestMetrics) : (g.cached route metrics req w).reply =
    (g.found route req w).elim (g.forward route metrics req w).reply hitReply := by
  rw [cached, found]
  cases g.cacheLayer with
  | none => rfl
  | some cache =>
      simp only
      split
      · rcases cache.backend.get w.cache (cache.buildKey req) with ⟨_ | _ | c, k⟩ <;> rfl
      · rfl

/-- Behind the limiter, the reply is that of the cache stage. -/
theorem limited_reply (metrics : RequestMetrics) (h : g.Admits w req) :
    (g.limited route metrics req w).reply = (g.cached route metrics req w).reply := by
  rcases limited_cases route metrics req w g with ⟨-, hl⟩ | ⟨rl, l, -, -, hl⟩ |
      ⟨rl, l, hr, hcheck, -⟩
  · rw [hl]
  · rw [hl]
    show (g.cached route metrics req { w with limiter := l }).reply = _
    rw [cached_reply, cached_reply]
    rfl
  · have hadm := h rl hr
    rw [hcheck] at hadm
    cases hadm

/-- **The reply of the cache stage names an origin** exactly if what was found does, or the
upstream's response. -/
theorem cached_carries_iff {cors : CorsLayer} (hc : g.corsLayer = some cors) (origin : Text)
    (metrics : RequestMetrics) :
    (∃ r, (g.cached route metrics req w).reply = .ok r ∧ CarriesOrigin origin r) ↔
      (∃ c, g.found route req w = some c ∧ StoresOrigin origin c) ∨
      (g.found route req w = none ∧
        ∃ response, g.relayed route req w = some response ∧ NamesOrigin cors origin response) := by
  rw [cached_reply]
  cases g.found route req w with
  | some c => simp [hitReply_carries_iff]
  | none =>
      have hsame : (g.proxyClient.proxy req route metrics w.upstream).1.result =
          (g.proxyClient.proxy req route ⟨req.method.text, req.uri.path, route.routeId⟩
            w.upstream).1.result := by
        cases hbody : req.body with
        | error e => rw [ProxyClient.proxy_of_error _ _ _ _ hbody,
            ProxyClient.proxy_of_error _ _ _ _ hbody]
        | ok body =>
            rw [ProxyClient.proxy, ProxyClient.proxy, Method.parse_text]
            simp only [hbody]
            split
            · rfl
            · split
              · rfl
              · split <;> rfl
      rw [Option.elim, forward, relayed, ← hsame]
      cases (g.proxyClient.proxy req route metrics w.upstream).1.result with
      | ok response =>
          simp only [withCors_carries_iff hc, Except.toOption, Option.some.injEq, reduceCtorEq,
            false_and, exists_false, true_and, false_or, exists_eq_left']
      | error e =>
          simp only [Except.toOption, reduceCtorEq, false_and, exists_false, and_false, or_false,
            iff_false, not_exists, not_and]
          exact fun r hr => not_carries_plainReply (by decide) hr

end Stages

/-- **Which actual responses name the origin of the request**: those to a request that passes the
auth stage and the limiter, where the stored answer names it or, if none is found, the upstream's
response does. -/
theorem carries_origin_iff {cors : CorsLayer} (hc : g.corsLayer = some cors) {req : Request}
    (hm : req.method ≠ .options) (client : SocketAddr) (id : Text) {w : World lim κ υ δ}
    {route : RouteMatch} {d : δ}
    (hroute : g.router.matchRoute L.regex req w.discovery = (some route, d)) :
    (∃ r, (g.handleRequest L req client id w).reply = .ok r ∧
      CarriesOrigin (originOf req.headers) r) ↔
    ∃ req', g.authenticate L.tokens (w.now / nanos) (g.stampRequestId id req) = .ok req' ∧
      g.Admits w req' ∧
      ((∃ c, g.found route req' w = some c ∧ StoresOrigin (originOf req.headers) c) ∨
        (g.found route req' w = none ∧ ∃ response, g.relayed route req' w = some response ∧
          NamesOrigin cors (originOf req.headers) response)) := by
  rw [handleRequest_routed req client id hroute]
  have hp : g.preflight (g.stampRequestId id req) = none := by
    rw [preflight_eq_none_iff]
    rintro ⟨cors', -, hopt, -⟩
    rw [stampRequestId_method] at hopt
    exact hm hopt
  rcases routed_cases route (g.stampRequestId id req) { w with discovery := d } g L.tokens with
    ⟨reply, hp', -⟩ | ⟨-, message, ha, h⟩ | ⟨-, req', ha, h⟩
  · rw [hp] at hp'
    cases hp'
  · -- a 401 names no origin
    rw [h]
    refine iff_of_false ?_ ?_
    · rintro ⟨r, hr, hcarry⟩
      exact unauthorized_not_carries hr hcarry
    · rintro ⟨req', ha', -⟩
      rw [ha] at ha'
      cases ha'
  · rw [h]
    by_cases hadm : g.Admits w req'
    · rw [limited_reply route req' { w with discovery := d } _ hadm,
        cached_carries_iff route req' { w with discovery := d } hc]
      refine ⟨fun hcarry => ⟨req', ha, hadm, hcarry⟩, ?_⟩
      rintro ⟨req'', ha', -, hcarry⟩
      cases ha.symm.trans ha'
      exact hcarry
    · -- nor does a 429
      refine iff_of_false ?_ ?_
      · rintro ⟨r, hr, hcarry⟩
        rcases limited_cases route _ req' { w with discovery := d } g with ⟨hnone, -⟩ |
            ⟨rl, l, hr', hcheck, -⟩ | ⟨rl, l, -, -, hl⟩
        · exact hadm fun rl hrl => by rw [hnone] at hrl; cases hrl
        · exact hadm fun rl' hrl => by rw [hr'] at hrl; cases hrl; rw [hcheck]
        · rw [hl] at hr
          exact tooManyRequests_not_carries hr hcarry
      · rintro ⟨req'', ha', hadm', -⟩
        cases ha.symm.trans ha'
        exact hadm hadm'

/-- An upstream that names one origin by itself. -/
def namingClient : Client Unit where
  isUrl url := url.startsWith "http://"
  send u _ := (.ok ⟨.ok, ⟨[(CorsLayer.allowOrigin, exampleOrigin)]⟩, .ok []⟩, u)

/-- A gateway in front of it. -/
def namingGateway : Gateway Regex.Re (Text → Nat) (List (Text × CachedResponse)) Unit Unit :=
  { crossGateway apiRoutes openCors with proxyClient := ⟨namingClient⟩ }

/-- What the upstream names is named to the client. -/
theorem carries_origin_named :
    ∃ r, (namingGateway.handleRequest tokenLibraries (fromOrigin .get "/api/echo" exampleOrigin)
        peer "id" (freshWorld 0)).reply = .ok r ∧
      CarriesOrigin (originOf (fromOrigin .get "/api/echo" exampleOrigin).headers) r := by
  have hroute : namingGateway.router.matchRoute tokenLibraries.regex
      (fromOrigin .get "/api/echo" exampleOrigin) (freshWorld 0).discovery =
      (some apiMatch, ()) := by decide
  refine (carries_origin_iff rfl (by decide) peer "id" hroute).mpr
    ⟨_, rfl, ?_, Or.inr ⟨rfl, _, rfl, ?_⟩⟩
  · intro rl h
    cases h
  · rw [NamesOrigin, if_neg (by decide)]
    exact ⟨exampleOrigin, by decide, by decide⟩

/-- `handle_request` as a service, which has no error of its own. -/
def pipeline (L : Libraries ρ lim κ υ δ) (g : Gateway ρ lim κ υ δ) (client : SocketAddr)
    (id : Text) : Service (World lim κ υ δ) Empty where
  call w req := ((g.handleRequest L req client id w).reply.map .ok,
    (g.handleRequest L req client id w).world)

/-- A request from an allowed origin to a plain upstream: the gateway names no origin, the service
around the same gateway without the layer names it. -/
theorem origin_not_carried :
    new tokenLibraries (crossConfig apiRoutes openCors) () =
        .ok (crossGateway apiRoutes openCors, ()) ∧
    (¬ ∃ r, ((crossGateway apiRoutes openCors).handleRequest tokenLibraries
        (fromOrigin .get "/api/echo" exampleOrigin) peer "id" (freshWorld 0)).reply = .ok r ∧
      CarriesOrigin (originOf (fromOrigin .get "/api/echo" exampleOrigin).headers) r) ∧
    ∃ r, (CorsService.call ⟨pipeline tokenLibraries (plainGateway apiRoutes none none none) peer
        "id", CorsLayer.new openCors⟩ (freshWorld 0)
        (fromOrigin .get "/api/echo" exampleOrigin)).1 = .ok (.ok r) ∧
      CarriesOrigin (originOf (fromOrigin .get "/api/echo" exampleOrigin).headers) r := by
  refine ⟨new_cross _ _ rfl, ?_, ?_⟩
  · rintro ⟨r, hr, v, hall, -⟩
    cases hr
    cases hall
  · have hget : (fromOrigin .get "/api/echo" exampleOrigin).method ≠ .options := by decide
    obtain ⟨r, hr, hann⟩ := CorsService.call_annotated ⟨pipeline tokenLibraries
      (plainGateway apiRoutes none none none) peer "id", CorsLayer.new openCors⟩ (freshWorld 0)
      hget (by decide) (by decide) (Or.inl rfl) rfl
    exact ⟨r, hr, hann.origin⟩

end MiniGateway.Gateway
