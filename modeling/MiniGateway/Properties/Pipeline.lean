import MiniGateway.Properties.Auth
import MiniGateway.Properties.CacheKeys
import MiniGateway.Properties.Proxying
import MiniGateway.Source.Gateway

/-!
# Properties — Pipeline

What handling one request can do, stage by stage: `routed_cases`, `limited_cases` and
`cached_cases` say once which way each stage can go, and `new_built` what a configuration gives.
Every result about the gateway rests on these.

* A request is served — sent upstream, or answered out of the cache — only behind every stage in
  front (`served_spec`); the limiter is checked at most once (`routed_ticks_length`).
* `pipeline_gates` puts them together, for every gateway that `Gateway::new` builds.
-/

namespace MiniGateway

open Http RateLimit

/-- The event serves the request: a send, or a hit in the cache. -/
def Event.Serves : Event → Prop
  | .send _ => True
  | .lookup _ hit => hit = true
  | .tick _ _ => False
  | .sleep _ => False

/-- The checks of the limiter among the events. -/
def ticks (events : List Event) : List (Text × Bool) :=
  events.filterMap fun e => match e with
    | .tick key admitted => some (key, admitted)
    | _ => none

theorem ticks_eq_nil {events : List Event}
    (h : ∀ e ∈ events, ∀ key admitted, e ≠ .tick key admitted) : ticks events = [] := by
  refine List.filterMap_eq_nil_iff.mpr fun e he => ?_
  cases e with
  | tick key admitted => exact absurd rfl (h _ he key admitted)
  | lookup key hit => rfl
  | send out => rfl
  | sleep ms => rfl

namespace Gateway

variable {ρ lim κ υ δ : Type} {L : Libraries ρ lim κ υ δ} {config : GatewayConfig}
  {g : Gateway ρ lim κ υ δ}

/-! ### What a configuration gives -/

/-- The parts of a gateway, out of its configuration. -/
structure Built (L : Libraries ρ lim κ υ δ) (config : GatewayConfig) (g : Gateway ρ lim κ υ δ) :
    Prop where
  config_eq : g.config = config
  routes : Router.compile L.regex config.routes = .ok g.router.routes
  auth : authLayerOf config = .ok g.authLayer
  rateLimit : g.rateLimitLayer = rateLimitLayerOf L config
  cors : g.corsLayer = corsLayerOf config
  cache : cacheLayerOf L config = .ok g.cacheLayer

theorem new_built {d d' : δ} (h : new L config d = .ok (g, d')) : Built L config g := by
  rw [new] at h
  obtain ⟨router, hrouter, h⟩ := ok_of_bind h
  obtain ⟨discovery, -, h⟩ := ok_of_bind h
  obtain ⟨-, -, h⟩ := ok_of_bind h
  obtain ⟨authLayer, hauth, h⟩ := ok_of_bind h
  obtain ⟨cacheLayer, hcache, h⟩ := ok_of_bind h
  cases h
  refine ⟨rfl, ?_, hauth, rfl, rfl, hcache⟩
  rw [Router.new_spec hrouter]
  cases discovery <;> rfl

/-- **The auth layer is there exactly when its section is enabled**, and is the section's. -/
theorem Built.authLayer_eq_some_iff (h : Built L config g) {layer : AuthLayer} :
    g.authLayer = some layer ↔
      ∃ a, config.auth = some a ∧ a.enabled = true ∧ AuthLayer.new a = .ok layer := by
  have hauth := h.auth
  rw [authLayerOf] at hauth
  cases ha : config.auth with
  | none =>
      rw [ha] at hauth
      rw [← Except.ok.inj hauth]
      exact ⟨fun h => absurd h (by simp), fun ⟨a, h, _⟩ => absurd h (by simp)⟩
  | some a =>
      rw [ha] at hauth
      cases hen : a.enabled with
      | false =>
          simp only [hen] at hauth
          rw [← Except.ok.inj hauth]
          refine ⟨fun h => absurd h (by simp), fun ⟨a', h, hen', _⟩ => ?_⟩
          cases h
          rw [hen] at hen'
          cases hen'
      | true =>
          simp only [hen, if_true, AuthLayer.new] at hauth
          rw [← Except.ok.inj hauth]
          refine ⟨fun h => ⟨a, rfl, hen, by cases h; rfl⟩, fun ⟨a', h, _, hnew⟩ => ?_⟩
          cases h
          exact congrArg some (Except.ok.inj hnew)

theorem Built.enabled (h : Built L config g) {layer : AuthLayer} (hl : g.authLayer = some layer) :
    layer.config.enabled = true := by
  obtain ⟨a, -, hen, hnew⟩ := h.authLayer_eq_some_iff.mp hl
  cases hnew
  exact hen

/-! ### The stages -/

@[simp] theorem stampRequestId_uri (g : Gateway ρ lim κ υ δ) (id : Text) (req : Request) :
    (g.stampRequestId id req).uri = req.uri := by
  unfold stampRequestId
  split
  · split <;> rfl
  · rfl

@[simp] theorem stampRequestId_method (g : Gateway ρ lim κ υ δ) (id : Text) (req : Request) :
    (g.stampRequestId id req).method = req.method := by
  unfold stampRequestId
  split
  · split <;> rfl
  · rfl

/-- The router does not read the request id. -/
theorem matchRoute_stamp (E : Regex.Engine ρ) (g : Gateway ρ lim κ υ δ) (id : Text) (req : Request)
    (d : δ) : g.router.matchRoute E (g.stampRequestId id req) d = g.router.matchRoute E req d := by
  rw [Router.matchRoute_eq_find, Router.matchRoute_eq_find]
  unfold Router.entryAccepts
  rw [stampRequestId_uri, stampRequestId_method]

/-- Handling a request that has a route. -/
theorem handleRequest_routed (req : Request) (client : SocketAddr) (id : Text)
    {w : World lim κ υ δ} {route : RouteMatch} {d : δ}
    (h : g.router.matchRoute L.regex req w.discovery = (some route, d)) :
    g.handleRequest L req client id w =
      g.routed L.tokens route (g.stampRequestId id req) { w with discovery := d } := by
  rw [handleRequest]
  simp only [matchRoute_stamp, h]

/-- The request is a preflight from an allowed origin, under a CORS layer. -/
def IsPreflight (g : Gateway ρ lim κ υ δ) (req : Request) : Prop :=
  ∃ cors, g.corsLayer = some cors ∧ req.method = .options ∧
    cors.isOriginAllowed (originOf req.headers) = true

theorem preflight_eq_none_iff (g : Gateway ρ lim κ υ δ) (req : Request) :
    g.preflight req = none ↔ ¬ g.IsPreflight req := by
  rw [preflight, IsPreflight]
  cases g.corsLayer with
  | none => simp
  | some cors =>
      by_cases hm : req.method = .options
      · by_cases ho : cors.isOriginAllowed (originOf req.headers) = true <;> simp [hm, ho]
      · simp [hm]

/-- The auth layer lets the request pass: there is none, the path is excluded, or the token the
request carries validates. -/
def Authorized (J : TokenDecoder) (now : Nat) (g : Gateway ρ lim κ υ δ) (req : Request) : Prop :=
  ∀ auth, g.authLayer = some auth → auth.isExcludedPath req.uri.path = true ∨
    ∃ token c, AuthLayer.extractToken req = some token ∧ auth.validateJwt J now token = .ok c

/-- **What the auth stage does**: nothing, without a layer or on an excluded path; set the user id
of a token that validates; or reject. -/
theorem authenticate_cases (hb : Built L config g) (J : TokenDecoder) (now : Nat) (req : Request) :
    ((g.authLayer = none ∨ ∃ auth, g.authLayer = some auth ∧
        auth.isExcludedPath req.uri.path = true) ∧ g.authenticate J now req = .ok req) ∨
    (∃ auth token c, g.authLayer = some auth ∧ auth.isExcludedPath req.uri.path = false ∧
      AuthLayer.extractToken req = some token ∧ auth.validateJwt J now token = .ok c ∧
      g.authenticate J now req = .ok (withUserId req c)) ∨
    (¬ g.Authorized J now req ∧ ∃ message, g.authenticate J now req = .error message) := by
  cases hl : g.authLayer with
  | none => exact Or.inl ⟨Or.inl rfl, by rw [authenticate, hl]⟩
  | some auth =>
      have hen : auth.config.enabled = true := hb.enabled hl
      rw [authenticate, hl]
      simp only [hen, Bool.true_and]
      cases hx : auth.isExcludedPath req.uri.path with
      | true => exact Or.inl ⟨Or.inr ⟨auth, rfl, hx⟩, rfl⟩
      | false =>
          refine Or.inr ?_
          -- from here on, only a token can authorize
          have hno : (¬ ∃ token c, AuthLayer.extractToken req = some token ∧
              auth.validateJwt J now token = .ok c) → ¬ g.Authorized J now req := by
            intro hno hA
            rcases hA auth hl with h | h
            · rw [hx] at h; cases h
            · exact hno h
          cases ht : AuthLayer.extractToken req with
          | none =>
              refine Or.inr ⟨hno ?_, _, rfl⟩
              rintro ⟨token, c, h, -⟩
              rw [ht] at h
              cases h
          | some token =>
              cases hv : auth.validateJwt J now token with
              | ok c => exact Or.inl ⟨auth, token, c, rfl, hx, rfl, hv, by simp [hv]⟩
              | error e =>
                  refine Or.inr ⟨hno ?_, e.toText, by simp [hv]⟩
                  rintro ⟨token', c, h, hv'⟩
                  rw [ht] at h
                  cases h
                  rw [hv] at hv'
                  cases hv'

/-- An unauthorized request is rejected, and no other. -/
theorem authorized_iff (hb : Built L config g) (J : TokenDecoder) (now : Nat) (req : Request) :
    g.Authorized J now req ↔ ∃ req', g.authenticate J now req = .ok req' := by
  rcases authenticate_cases hb J now req with ⟨hopen, h⟩ | ⟨auth, token, c, hl, -, ht, hv, h⟩ |
      ⟨hno, message, h⟩
  · refine ⟨fun _ => ⟨_, h⟩, fun _ auth hl => ?_⟩
    rcases hopen with hnone | ⟨auth', hl', hx⟩
    · rw [hnone] at hl; cases hl
    · rw [hl'] at hl; cases hl; exact Or.inl hx
  · refine ⟨fun _ => ⟨_, h⟩, fun _ auth' hl' => ?_⟩
    rw [hl] at hl'
    cases hl'
    exact Or.inr ⟨token, c, ht, hv⟩
  · refine ⟨fun hA => absurd hA hno, fun ⟨req', h'⟩ => ?_⟩
    rw [h] at h'
    cases h'

/-- The auth stage changes headers only. -/
theorem authenticate_headers {J : TokenDecoder} {now : Nat} {req req' : Request}
    (h : g.authenticate J now req = .ok req') :
    ∃ headers, req' = { req with headers := headers } := by
  rw [authenticate] at h
  split at h
  · split at h
    · split at h
      · split at h
        · cases h
          rw [withUserId]
          split
          · exact ⟨_, rfl⟩
          · exact ⟨_, rfl⟩
        · cases h
      · cases h
    · cases h
      exact ⟨_, rfl⟩
  · cases h
    exact ⟨_, rfl⟩

section Stages

variable (route : RouteMatch) (metrics : RequestMetrics) (req : Request) (w : World lim κ υ δ)

/-- **The cache stage** answers from the cache, or forwards, after a lookup that missed or none. -/
theorem cached_cases (g : Gateway ρ lim κ υ δ) :
    (∃ key c k, g.cached route metrics req w =
      ⟨hitReply c, ({ w with cache := k } : World lim κ υ δ).record metrics.recordCacheHit,
        [.lookup key true]⟩) ∨
    ∃ k misses, (∀ e ∈ misses, ∃ key, e = Event.lookup key false) ∧
      g.cached route metrics req w =
        { g.forward route metrics req { w with cache := k } with
          events := misses ++ (g.forward route metrics req { w with cache := k }).events } := by
  -- without a lookup: no misses, and the cache as it is
  have hskip : ∃ k misses, (∀ e ∈ misses, ∃ key, e = Event.lookup key false) ∧
      g.forward route metrics req w =
        { g.forward route metrics req { w with cache := k } with
          events := misses ++ (g.forward route metrics req { w with cache := k }).events } :=
    ⟨w.cache, [], fun _ he => absurd he List.not_mem_nil, rfl⟩
  rw [cached]
  split
  · rename_i cache hc
    split
    · simp only
      split
      · rename_i c k hget
        exact Or.inl ⟨_, c, k, rfl⟩
      · rename_i k hget
        exact Or.inr ⟨_, [.lookup _ false], fun e he => ⟨_, List.mem_singleton.mp he⟩, rfl⟩
    · exact Or.inr hskip
  · exact Or.inr hskip

/-- The limiter, if there is one, admits the request. -/
def Admits (g : Gateway ρ lim κ υ δ) (w : World lim κ υ δ) (req : Request) : Prop :=
  ∀ rl, g.rateLimitLayer = some rl →
    (rl.limiter.checkKey w.limiter (RateLimitLayer.requestKey rl.keyStrategy req) w.now).1 = true

/-- **The limiter's stage** hands over, unasked; hands over, having asked; or refuses. -/
theorem limited_cases (g : Gateway ρ lim κ υ δ) :
    (g.rateLimitLayer = none ∧ g.limited route metrics req w = g.cached route metrics req w) ∨
    (∃ rl l, g.rateLimitLayer = some rl ∧ rl.limiter.checkKey w.limiter
        (RateLimitLayer.requestKey rl.keyStrategy req) w.now = (true, l) ∧
      g.limited route metrics req w = (g.cached route metrics req { w with limiter := l }).after
        (.tick (RateLimitLayer.requestKey rl.keyStrategy req) true)) ∨
    (∃ rl l, g.rateLimitLayer = some rl ∧ rl.limiter.checkKey w.limiter
        (RateLimitLayer.requestKey rl.keyStrategy req) w.now = (false, l) ∧
      g.limited route metrics req w = ⟨tooManyRequests,
        ({ w with limiter := l } : World lim κ υ δ).record metrics.recordRateLimited,
        [.tick (RateLimitLayer.requestKey rl.keyStrategy req) false]⟩) := by
  rw [limited]
  cases hr : g.rateLimitLayer with
  | none => exact Or.inl ⟨rfl, rfl⟩
  | some rl =>
      simp only
      split
      · rename_i l hcheck
        exact Or.inr (Or.inl ⟨rl, l, rfl, hcheck, rfl⟩)
      · rename_i l hcheck
        exact Or.inr (Or.inr ⟨rl, l, rfl, hcheck, rfl⟩)

/-- **The stages in front** answer a preflight, reject, or hand over. -/
theorem routed_cases (g : Gateway ρ lim κ υ δ) (J : TokenDecoder) :
    (∃ reply, g.preflight req = some reply ∧ g.routed J route req w = ⟨reply, w, []⟩) ∨
    (g.preflight req = none ∧ ∃ message, g.authenticate J (w.now / nanos) req = .error message ∧
      g.routed J route req w = ⟨unauthorized message, w.record (RequestMetrics.recordAuthFailure
        ⟨req.method.text, req.uri.path, route.routeId⟩), []⟩) ∨
    (g.preflight req = none ∧ ∃ req', g.authenticate J (w.now / nanos) req = .ok req' ∧
      g.routed J route req w =
        g.limited route ⟨req.method.text, req.uri.path, route.routeId⟩ req' w) := by
  rw [routed]
  cases hp : g.preflight req with
  | some reply => exact Or.inl ⟨reply, rfl, rfl⟩
  | none =>
      cases ha : g.authenticate J (w.now / nanos) req with
      | error message => exact Or.inr (Or.inl ⟨rfl, message, rfl, rfl⟩)
      | ok req' => exact Or.inr (Or.inr ⟨rfl, req', rfl, rfl⟩)

/-! ### Events -/

theorem cached_events (g : Gateway ρ lim κ υ δ) {e : Event}
    (he : e ∈ (g.cached route metrics req w).events) :
    (∃ key hit, e = .lookup key hit) ∨ (∃ ms, e = .sleep ms) ∨
      ∃ out, ProxyClient.Relays route req out ∧ e = .send out := by
  rcases cached_cases route metrics req w g with ⟨key, c, k, h⟩ | ⟨k, misses, hmiss, h⟩
  · rw [h] at he
    exact Or.inl ⟨key, true, List.mem_singleton.mp he⟩
  · rw [h] at he
    rcases List.mem_append.mp he with he | he
    · obtain ⟨key, hkey⟩ := hmiss e he
      exact Or.inl ⟨key, false, hkey⟩
    · exact Or.inr (ProxyClient.proxy_events _ _ _ _ _ he)

/-- A request that is sent was not found in the cache. -/
theorem cached_send_missed (g : Gateway ρ lim κ υ δ) {out : OutRequest} {key : Text} {hit : Bool}
    (hs : .send out ∈ (g.cached route metrics req w).events)
    (hl : .lookup key hit ∈ (g.cached route metrics req w).events) : hit = false := by
  rcases cached_cases route metrics req w g with ⟨key', c, k, h⟩ | ⟨k, misses, hmiss, h⟩
  · rw [h] at hs
    exact absurd (List.mem_singleton.mp hs) (by simp)
  · rw [h] at hl
    rcases List.mem_append.mp hl with hl | hl
    · obtain ⟨key', hkey⟩ := hmiss _ hl
      exact (Event.lookup.inj hkey).2
    · rcases ProxyClient.proxy_events _ _ _ _ _ hl with ⟨ms, h'⟩ | ⟨out', -, h'⟩ <;> cases h'

theorem cached_limiter (g : Gateway ρ lim κ υ δ) :
    (g.cached route metrics req w).world.limiter = w.limiter := by
  rcases cached_cases route metrics req w g with ⟨key, c, k, h⟩ | ⟨k, misses, -, h⟩ <;>
    rw [h] <;> rfl

theorem cached_ticks (g : Gateway ρ lim κ υ δ) :
    ticks (g.cached route metrics req w).events = [] := by
  refine ticks_eq_nil fun e he key admitted h => ?_
  rcases cached_events route metrics req w g he with ⟨key', hit, h'⟩ | ⟨ms, h'⟩ | ⟨out, -, h'⟩ <;>
    (rw [h] at h'; cases h')

/-- **A request is served only if the limiter admits it**, and what is sent is the request. -/
theorem limited_served (g : Gateway ρ lim κ υ δ) {e : Event}
    (he : e ∈ (g.limited route metrics req w).events) (hs : e.Serves) :
    g.Admits w req ∧ ∀ out, e = .send out → ProxyClient.Relays route req out := by
  have hrelays : ∀ w' : World lim κ υ δ, e ∈ (g.cached route metrics req w').events →
      ∀ out, e = .send out → ProxyClient.Relays route req out := by
    intro w' he out hout
    rcases cached_events route metrics req w' g he with ⟨key, hit, h⟩ | ⟨ms, h⟩ | ⟨out', hrel, h⟩
    · rw [h] at hout; cases hout
    · rw [h] at hout; cases hout
    · rw [h] at hout; cases hout; exact hrel
  rcases limited_cases route metrics req w g with ⟨hnone, h⟩ | ⟨rl, l, hr, hcheck, h⟩ |
      ⟨rl, l, hr, hcheck, h⟩
  · rw [h] at he
    refine ⟨fun rl hr => ?_, hrelays _ he⟩
    rw [hnone] at hr
    cases hr
  · rw [h] at he
    rcases List.mem_cons.mp he with rfl | he
    · exact absurd hs id
    · refine ⟨fun rl' hr' => ?_, hrelays _ he⟩
      rw [hr] at hr'
      cases hr'
      rw [hcheck]
  · rw [h] at he
    rw [List.mem_singleton.mp he] at hs
    exact absurd hs id

theorem limited_send_missed (g : Gateway ρ lim κ υ δ) {out : OutRequest} {key : Text} {hit : Bool}
    (hs : .send out ∈ (g.limited route metrics req w).events)
    (hl : .lookup key hit ∈ (g.limited route metrics req w).events) : hit = false := by
  rcases limited_cases route metrics req w g with ⟨-, h⟩ | ⟨rl, l, -, -, h⟩ | ⟨rl, l, -, -, h⟩
  · rw [h] at hs hl
    exact cached_send_missed route metrics req w g hs hl
  · rw [h] at hs hl
    refine cached_send_missed route metrics req { w with limiter := l } g
      (List.mem_of_ne_of_mem (by simp) hs) (List.mem_of_ne_of_mem (by simp) hl)
  · rw [h] at hs
    exact absurd (List.mem_singleton.mp hs) (by simp)

/-- **The limiter is asked once**, under the request's key; without a limiter, not at all. -/
theorem limited_ticks (g : Gateway ρ lim κ υ δ) :
    (g.rateLimitLayer = none ∧ ticks (g.limited route metrics req w).events = [] ∧
      (g.limited route metrics req w).world.limiter = w.limiter) ∨
    ∃ rl, g.rateLimitLayer = some rl ∧
      ticks (g.limited route metrics req w).events =
        [(RateLimitLayer.requestKey rl.keyStrategy req, (rl.limiter.checkKey w.limiter
          (RateLimitLayer.requestKey rl.keyStrategy req) w.now).1)] ∧
      (g.limited route metrics req w).world.limiter = (rl.limiter.checkKey w.limiter
        (RateLimitLayer.requestKey rl.keyStrategy req) w.now).2 := by
  rcases limited_cases route metrics req w g with ⟨hnone, h⟩ | ⟨rl, l, hr, hcheck, h⟩ |
      ⟨rl, l, hr, hcheck, h⟩
  · rw [h]
    exact Or.inl ⟨hnone, cached_ticks route metrics req w g, cached_limiter route metrics req w g⟩
  · refine Or.inr ⟨rl, hr, ?_⟩
    rw [h, hcheck]
    exact ⟨congrArg _ (cached_ticks route metrics req { w with limiter := l } g),
      cached_limiter route metrics req { w with limiter := l } g⟩
  · refine Or.inr ⟨rl, hr, ?_⟩
    rw [h, hcheck]
    exact ⟨rfl, rfl⟩

/-- **A refusal of the limiter is final**: nothing is looked up or sent. -/
theorem limited_refused (g : Gateway ρ lim κ υ δ) {key : Text}
    (ht : .tick key false ∈ (g.limited route metrics req w).events) :
    (g.limited route metrics req w).events = [.tick key false] ∧
      (g.limited route metrics req w).reply = tooManyRequests ∧
      (g.limited route metrics req w).world.cache = w.cache ∧
      (g.limited route metrics req w).world.upstream = w.upstream := by
  have hno : ∀ w' : World lim κ υ δ, .tick key false ∉ (g.cached route metrics req w').events := by
    intro w' he
    rcases cached_events route metrics req w' g he with ⟨key', hit, h⟩ | ⟨ms, h⟩ | ⟨out, -, h⟩ <;>
      cases h
  rcases limited_cases route metrics req w g with ⟨-, h⟩ | ⟨rl, l, -, -, h⟩ | ⟨rl, l, -, -, h⟩
  · rw [h] at ht
    exact absurd ht (hno w)
  · rw [h] at ht
    exact absurd (List.mem_of_ne_of_mem (by simp) ht) (hno { w with limiter := l })
  · rw [h] at ht ⊢
    obtain rfl := (Event.tick.inj (List.mem_singleton.mp ht)).1
    exact ⟨rfl, rfl, rfl, rfl⟩

end Stages

/-! ### The whole pipeline -/

theorem unauthorized_status (message : Text) :
    ∃ r, unauthorized message = .ok r ∧ r.status.code = 401 := ⟨_, rfl, rfl⟩

theorem tooManyRequests_status : ∃ r, tooManyRequests = .ok r ∧ r.status.code = 429 :=
  ⟨_, rfl, rfl⟩

/-- A request that causes an event was handed over to the limiter's stage. -/
theorem routed_of_mem {route : RouteMatch} {req : Request} {w : World lim κ υ δ} {J : TokenDecoder}
    {e : Event} (he : e ∈ (g.routed J route req w).events) :
    g.preflight req = none ∧ ∃ req', g.authenticate J (w.now / nanos) req = .ok req' ∧
      g.routed J route req w =
        g.limited route ⟨req.method.text, req.uri.path, route.routeId⟩ req' w := by
  rcases routed_cases route req w g J with ⟨reply, -, h⟩ | ⟨-, message, -, h⟩ | h
  · rw [h] at he; exact absurd he List.not_mem_nil
  · rw [h] at he; exact absurd he List.not_mem_nil
  · exact h

/-- **What is served has passed every stage**: it is no preflight, the auth stage let it pass, as
`req'`, and the limiter admits `req'`; what is sent is `req'`. -/
theorem served_spec {route : RouteMatch} {req : Request} {w : World lim κ υ δ} {J : TokenDecoder}
    {e : Event} (he : e ∈ (g.routed J route req w).events) (hs : e.Serves) :
    g.preflight req = none ∧ ∃ req', g.authenticate J (w.now / nanos) req = .ok req' ∧
      g.Admits w req' ∧ ∀ out, e = .send out → ProxyClient.Relays route req' out := by
  obtain ⟨hp, req', ha, h⟩ := routed_of_mem he
  rw [h] at he
  obtain ⟨hadm, hrel⟩ := limited_served route _ req' w g he hs
  exact ⟨hp, req', ha, hadm, hrel⟩

/-- **What a rejected request does**: nothing but be counted and answered. -/
theorem rejected_spec (hb : Built L config g) (route : RouteMatch) {req : Request}
    {w : World lim κ υ δ} (hp : ¬ g.IsPreflight req)
    (ha : ¬ g.Authorized L.tokens (w.now / nanos) req) :
    ∃ message, g.authenticate L.tokens (w.now / nanos) req = .error message ∧
      g.routed L.tokens route req w = ⟨unauthorized message, w.record
        (RequestMetrics.recordAuthFailure ⟨req.method.text, req.uri.path, route.routeId⟩), []⟩ := by
  rcases routed_cases route req w g L.tokens with ⟨reply, hpre, -⟩ | ⟨-, message, hm, h⟩ |
      ⟨-, req', hok, -⟩
  · rw [(preflight_eq_none_iff g req).mpr hp] at hpre; cases hpre
  · exact ⟨message, hm, h⟩
  · exact absurd ((authorized_iff hb _ _ _).mpr ⟨req', hok⟩) ha

/-- The limiter is checked at most once. -/
theorem routed_ticks_length (g : Gateway ρ lim κ υ δ) (J : TokenDecoder) (route : RouteMatch)
    (req : Request) (w : World lim κ υ δ) : (ticks (g.routed J route req w).events).length ≤ 1 := by
  rcases hev : (g.routed J route req w).events with _ | ⟨e, es⟩
  · exact Nat.zero_le 1
  · have he : e ∈ (g.routed J route req w).events := by rw [hev]; exact List.mem_cons_self
    obtain ⟨-, req', -, h⟩ := routed_of_mem he
    rw [← hev, h]
    rcases limited_ticks route _ req' w g with ⟨-, ht, -⟩ | ⟨rl, -, ht, -⟩
    · rw [ht]; exact Nat.zero_le 1
    · rw [ht]; exact Nat.le_refl 1

/-- **The pipeline gates.**  For a gateway built from any configuration, any request that has a
route — `r` is the request with its id — and any world:

* what is sent upstream or answered out of the cache is no preflight from an allowed origin, is
  authorized, and is admitted by the limiter under the key of the request the auth stage lets pass;
* what is sent upstream was not found in the cache;
* an unauthorized request is answered with 401, causes no event and leaves limiter, cache and
  upstream as they are, and the answer is the same in every world that agrees on the time and
  on the service discovery;
* the limiter is checked at most once, and after a refusal, answered with 429, the cache and the
  upstream are as they were. -/
theorem pipeline_gates {d d' : δ} (hnew : new L config d = .ok (g, d')) (req : Request)
    (client : SocketAddr) (id : Text) (w : World lim κ υ δ) {route : RouteMatch} {d'' : δ}
    (hroute : g.router.matchRoute L.regex req w.discovery = (some route, d'')) :
    let r := g.stampRequestId id req
    let h := g.handleRequest L req client id w
    (∀ e ∈ h.events, e.Serves → ¬ g.IsPreflight r ∧ g.Authorized L.tokens (w.now / nanos) r ∧
      ∃ req', g.authenticate L.tokens (w.now / nanos) r = .ok req' ∧ g.Admits w req') ∧
    (∀ out key hit, .send out ∈ h.events → .lookup key hit ∈ h.events → hit = false) ∧
    (¬ g.IsPreflight r → ¬ g.Authorized L.tokens (w.now / nanos) r →
      (∃ reply, h.reply = .ok reply ∧ reply.status.code = 401) ∧ h.events = [] ∧
      h.world.limiter = w.limiter ∧ h.world.cache = w.cache ∧ h.world.upstream = w.upstream ∧
      ∀ w' : World lim κ υ δ, w'.now = w.now → w'.discovery = w.discovery →
        (g.handleRequest L req client id w').reply = h.reply) ∧
    (ticks h.events).length ≤ 1 ∧
    ∀ key, .tick key false ∈ h.events →
      (∃ reply, h.reply = .ok reply ∧ reply.status.code = 429) ∧
      h.events = [.tick key false] ∧ h.world.cache = w.cache ∧ h.world.upstream = w.upstream := by
  have hb := new_built hnew
  intro r h
  have hh : h = g.routed L.tokens route r { w with discovery := d'' } :=
    handleRequest_routed req client id hroute
  refine ⟨fun e he hs => ?_, fun out key hit hsend hlook => ?_, fun hp ha => ?_, ?_,
    fun key ht => ?_⟩
  · rw [hh] at he
    obtain ⟨hp, req', hok, hadm, -⟩ := served_spec he hs
    exact ⟨(preflight_eq_none_iff g r).mp hp, (authorized_iff hb _ _ _).mpr ⟨req', hok⟩,
      req', hok, hadm⟩
  · rw [hh] at hsend hlook
    obtain ⟨-, req', -, hl⟩ := routed_of_mem hsend
    rw [hl] at hsend hlook
    exact limited_send_missed _ _ _ _ g hsend hlook
  · obtain ⟨message, hm, hrej⟩ := rejected_spec hb route (w := { w with discovery := d'' }) hp ha
    rw [hh, hrej]
    refine ⟨unauthorized_status message, rfl, rfl, rfl, rfl, fun w' hnow hdisc => ?_⟩
    -- the message comes from the request and the time alone
    rw [← hdisc] at hroute
    rw [← hnow] at ha
    obtain ⟨message', hm', hrej'⟩ :=
      rejected_spec hb route (w := { w' with discovery := d'' }) hp ha
    rw [handleRequest_routed req client id hroute, hrej']
    have hsame : (Except.error message' : Except Text Request) = .error message := by
      rw [← hm', ← hm]
      exact congrArg (fun t => g.authenticate L.tokens (t / nanos) r) hnow
    rw [Except.error.inj hsame]
  · rw [hh]
    exact routed_ticks_length g L.tokens route r _
  · rw [hh] at ht ⊢
    obtain ⟨-, req', -, hl⟩ := routed_of_mem ht
    rw [hl] at ht ⊢
    obtain ⟨hevents, hreply, hcache, hup⟩ := limited_refused _ _ _ _ g ht
    exact ⟨hreply ▸ tooManyRequests_status, hevents, hcache, hup⟩

/-! ### A gateway to run -/

/-- An upstream that answers everything with an empty 200. -/
def okClient : Client Unit where
  isUrl url := url.startsWith "http://"
  send u _ := (.ok ⟨.ok, .empty, .ok []⟩, u)

/-- The reference engine, the generic cell rate algorithm, the list cache, and an upstream that
answers; no Redis, no discovery and no certificates. -/
def plainLibraries (J : TokenDecoder) :
    Libraries Regex.Re (Text → Nat) (List (Text × CachedResponse)) Unit Unit where
  regex := Regex.reference
  tokens := J
  keyed := gcra
  memory _ := CacheLayer.listCache
  redis _ := .error (.cache "Connection refused")
  consul _ := .error (.discovery "Connection refused")
  etcd _ := .error (.discovery "Connection refused")
  tlsAcceptor _ := .error (.tls "No such file")
  client _ _ := okClient

/-- Libraries that know one token. -/
abbrev tokenLibraries : Libraries Regex.Re (Text → Nat) (List (Text × CachedResponse)) Unit Unit :=
  plainLibraries (AuthLayer.decoderOf AuthLayer.fullToken AuthLayer.fullClaims)

/-- A client's address. -/
def peer : SocketAddr := ⟨"10.0.0.1", 4711⟩

/-- The routes, with an auth and a rate limit section, and nothing else. -/
def plainConfig (routes : List RouteConfig) (auth : Option AuthConfig)
    (rateLimit : Option RateLimitConfig) : GatewayConfig where
  tls := none
  routes := routes
  rateLimit := rateLimit
  cors := none
  auth := auth
  cache := none
  discovery := none
  logging := ⟨none⟩
  pool := none

/-- The gateway of `plainConfig`. -/
def plainGateway (routes : List RouteConfig) (auth : Option AuthConfig)
    (rateLimit : Option RateLimitConfig) (layer : Option AuthLayer) :
    Gateway Regex.Re (Text → Nat) (List (Text × CachedResponse)) Unit Unit where
  config := plainConfig routes auth rateLimit
  router := Router.ofRoutes routes
  proxyClient := ⟨okClient⟩
  authLayer := layer
  rateLimitLayer := rateLimit.bind fun rl => if rl.enabled then
    some (RateLimitLayer.new gcra rl.requestsPerSecond rl.burstSize rl.keyStrategy) else none
  corsLayer := none
  cacheLayer := none

theorem new_plain (J : TokenDecoder) (routes : List RouteConfig) (auth : Option AuthConfig)
    (rateLimit : Option RateLimitConfig) {layer : Option AuthLayer}
    (h : authLayerOf (plainConfig routes auth rateLimit) = .ok layer) :
    new (plainLibraries J) (plainConfig routes auth rateLimit) () =
      .ok (plainGateway routes auth rateLimit layer, ()) := by
  have hrouter : Router.new (plainLibraries J).regex (plainConfig routes auth rateLimit).routes =
      .ok (Router.ofRoutes routes : Router Regex.Re Unit) := Router.new_reference routes
  rw [new, hrouter, h]
  cases rateLimit <;> rfl

/-- The world at a time, with a fresh limiter and an empty cache. -/
def freshWorld (now : Nat) : World (Text → Nat) (List (Text × CachedResponse)) Unit Unit :=
  ⟨now, fun _ => 0, [], (), (), []⟩

section Plain

variable {J : TokenDecoder} {routes : List RouteConfig} {auth : Option AuthConfig}
  {layer : Option AuthLayer} {req req' : Request} {route : RouteMatch}

/-- Without a limiter, a request the auth stage lets pass is forwarded. -/
theorem plain_forwards (client : SocketAddr) (id : Text)
    (w : World (Text → Nat) (List (Text × CachedResponse)) Unit Unit)
    (hroute : (Router.ofRoutes routes : Router Regex.Re Unit).matchRoute Regex.reference req () =
      (some route, ()))
    (hauth : (plainGateway routes auth none layer).authenticate J (w.now / nanos) req = .ok req') :
    (plainGateway routes auth none layer).handleRequest (plainLibraries J) req client id w =
      (plainGateway routes auth none layer).forward route
        ⟨req.method.text, req.uri.path, route.routeId⟩ req' w := by
  have hstamp : (plainGateway routes auth none layer).stampRequestId id req = req := rfl
  have hrouted := handleRequest_routed (g := plainGateway routes auth none layer)
    (L := plainLibraries J) req client id (w := w) hroute
  rw [hrouted, hstamp]
  rcases routed_cases route req w (plainGateway routes auth none layer) J with
    ⟨reply, h, -⟩ | ⟨-, message, h, -⟩ | ⟨-, req'', h, hl⟩
  · cases h
  · cases hauth.symm.trans h
  · cases hauth.symm.trans h
    -- there is no limiter and no cache
    exact hl

/-- What is forwarded is sent, once. -/
theorem plain_forward_sends (metrics : RequestMetrics)
    (w : World (Text → Nat) (List (Text × CachedResponse)) Unit Unit) (hretry : route.retry = none)
    {body : Bytes} (hbody : req'.body = .ok body)
    (hurl : okClient.isUrl (ProxyClient.targetUrl route req'.uri) = true) :
    ((plainGateway routes auth none layer).forward route metrics req' w).events =
      [.send ⟨req'.method, ProxyClient.targetUrl route req'.uri,
        ProxyClient.copyHeaders req'.headers, body, route.timeoutMs⟩] := by
  show (ProxyClient.proxy ⟨okClient⟩ req' route _ ()).1.events = _
  rw [ProxyClient.proxy, Method.parse_text]
  simp only [hbody, ProxyClient.outRequest, hurl, if_true]
  rw [ProxyClient.executeWithRetry, hretry]
  cases route.timeoutMs <;> rfl

/-- Without a limiter, a request the auth stage lets pass is sent, once. -/
theorem plain_sends {body : Bytes} (client : SocketAddr) (id : Text) (now : Nat)
    (hroute : (Router.ofRoutes routes : Router Regex.Re Unit).matchRoute Regex.reference req () =
      (some route, ()))
    (hretry : route.retry = none)
    (hauth : (plainGateway routes auth none layer).authenticate J (now / nanos) req = .ok req')
    (hbody : req'.body = .ok body)
    (hurl : okClient.isUrl (ProxyClient.targetUrl route req'.uri) = true) :
    ((plainGateway routes auth none layer).handleRequest (plainLibraries J) req client id
      (freshWorld now)).events = [.send ⟨req'.method, ProxyClient.targetUrl route req'.uri,
        ProxyClient.copyHeaders req'.headers, body, route.timeoutMs⟩] := by
  rw [plain_forwards client id (freshWorld now) hroute hauth]
  exact plain_forward_sends _ _ hretry hbody hurl

end Plain

/-- One route for everything below `/api`. -/
def apiRoutes : List RouteConfig := [Router.plainRoute "api" "/api/**" "http://localhost:3000"]

/-- The one match of `apiRoutes`. -/
def apiMatch : RouteMatch :=
  Router.routeMatch (Router.plainRoute "api" "/api/**" "http://localhost:3000")
    "http://localhost:3000"

/-- A route, tokens and a limiter of one request a second. -/
def guarded : Gateway Regex.Re (Text → Nat) (List (Text × CachedResponse)) Unit Unit :=
  plainGateway apiRoutes (some AuthLayer.pinned) (some ⟨true, 1, 1, .global⟩)
    (some AuthLayer.pinnedLayer)

/-- A request without a token goes no further than the auth stage. -/
theorem pipeline_gates_tokenless :
    (guarded.handleRequest tokenLibraries (Router.plainGet "/api/users") peer "id"
      (freshWorld 0)).events = [] := by
  have hgates := pipeline_gates (new_plain tokenLibraries.tokens apiRoutes
    (some AuthLayer.pinned) (some ⟨true, 1, 1, .global⟩) rfl) (Router.plainGet "/api/users") peer
    "id" (freshWorld 0)
    (show (Router.ofRoutes apiRoutes).matchRoute Regex.reference (Router.plainGet "/api/users") () =
      (some apiMatch, ()) by decide)
  refine (hgates.2.2.1 ?_ ?_).2.1
  · rintro ⟨cors, h, -⟩
    cases h
  · intro hA
    rcases hA _ rfl with h | ⟨token, c, h, -⟩
    · cases h
    · cases h

end Gateway

end MiniGateway
