import MiniGateway.Properties.Cors
import MiniGateway.Properties.Pipeline

/-!
# Properties — Answers

The answers the gateway makes up itself.  A request that is neither sent nor found in the cache
is answered with the 404 of a request without a route, with the answer to a preflight, or with an
error whose status is another one (`routed_own`).  A hit is answered with what is stored
(`hitReply_repeated`), if that is legal.

A 404 does not mean that there is no route: a route that accepts the request and whose upstream
does not resolve gives one as well (`notFound_means_unrouted_iff`).
-/

namespace MiniGateway

open Http RateLimit

/-! ### What is stored -/

/-- `x-cache: HIT`. -/
def Gateway.cacheName : HeaderName := ⟨"x-cache".toList, by decide⟩
def Gateway.hitValue : HeaderValue := ⟨Text.utf8 "HIT", by decide⟩

/-- A stored answer with a status, names and values of responses. -/
structure CachedResponse.Legal (cached : CachedResponse) : Prop where
  status : 100 ≤ cached.status ∧ cached.status < 1000
  headers : ∀ e ∈ cached.headers, IsName (e.1.map Char.toLower) ∧ e.2.all isValueByte = true

/-- `r` is the stored answer, header line by header line, with one more. -/
structure CachedResponse.Repeated (cached : CachedResponse) (r : Response) : Prop where
  status : r.status.code = cached.status
  body : r.body = cached.body
  headers : ∀ n, r.headers.getAll n = HeaderMap.valuesIn cached.headers n ++
    if n = Gateway.cacheName then [Gateway.hitValue] else []

theorem header_foldl_legal_iff (headers : List (Text × Bytes)) (b : Builder) :
    (headers.foldl (fun b e => b.header e.1 e.2) b).Legal ↔
      b.Legal ∧ ∀ e ∈ headers, IsName (e.1.map Char.toLower) ∧ e.2.all isValueByte = true := by
  induction headers generalizing b with
  | nil => simp
  | cons e headers ih =>
      rw [List.foldl_cons, ih, Builder.header_legal_iff, List.forall_mem_cons, and_assoc]

namespace Gateway

variable {ρ lim κ υ δ : Type} {L : Libraries ρ lim κ υ δ} {g : Gateway ρ lim κ υ δ}

/-! ### Errors -/

/-- **An error is answered with its own status.** -/
theorem errorReply_status (e : GatewayError) :
    ∃ r, errorReply e = .ok r ∧ r.status = e.statusCode := by
  cases e <;> exact ⟨_, rfl, rfl⟩

/-- An error of the gateway: a client or server error, but neither 403 nor 404. -/
def IsFailure (reply : Except Panic Response) : Prop :=
  ∃ r, reply = .ok r ∧ 400 ≤ r.status.code ∧ r.status.code ≠ 403 ∧ r.status.code ≠ 404

theorem errorReply_isFailure (e : GatewayError) : IsFailure (errorReply e) := by
  obtain ⟨r, hr, hs⟩ := errorReply_status e
  refine ⟨r, hr, ?_⟩
  rw [hs]
  cases e <;> simp [GatewayError.statusCode]

theorem unauthorized_isFailure (message : Text) : IsFailure (unauthorized message) := by
  obtain ⟨r, hr, hs⟩ := unauthorized_status message
  exact ⟨r, hr, by rw [hs]; decide⟩

theorem tooManyRequests_isFailure : IsFailure tooManyRequests := by
  obtain ⟨r, hr, hs⟩ := tooManyRequests_status
  exact ⟨r, hr, by rw [hs]; decide⟩

/-! ### Requests that are not served -/

section Stages

variable (route : RouteMatch) (metrics : RequestMetrics) (req : Request) (w : World lim κ υ δ)

/-- Nothing sent: no upstream has answered. -/
theorem forward_unsent (h : ∀ out, .send out ∉ (g.forward route metrics req w).events) :
    IsFailure (g.forward route metrics req w).reply := by
  rw [forward] at h ⊢
  cases hr : (g.proxyClient.proxy req route metrics w.upstream).1.result with
  | error e => exact errorReply_isFailure e
  | ok response =>
      obtain ⟨out, hout⟩ := ProxyClient.proxy_ok_sends _ _ _ _ _ hr
      exact absurd hout (h out)

theorem cached_unserved (h : ∀ e ∈ (g.cached route metrics req w).events, ¬ e.Serves) :
    IsFailure (g.cached route metrics req w).reply := by
  rcases cached_cases route metrics req w g with ⟨key, c, k, hc⟩ | ⟨k, misses, -, hc⟩
  · rw [hc] at h
    exact absurd rfl (h _ List.mem_cons_self)
  · rw [hc] at h ⊢
    exact forward_unsent route metrics req _ fun out hout =>
      h _ (List.mem_append_right _ hout) trivial

theorem limited_unserved (h : ∀ e ∈ (g.limited route metrics req w).events, ¬ e.Serves) :
    IsFailure (g.limited route metrics req w).reply := by
  rcases limited_cases route metrics req w g with ⟨-, hl⟩ | ⟨rl, l, -, -, hl⟩ | ⟨rl, l, -, -, hl⟩
  · rw [hl] at h ⊢
    exact cached_unserved route metrics req w h
  · rw [hl] at h ⊢
    exact cached_unserved route metrics req _ fun e he => h e (List.mem_cons_of_mem _ he)
  · rw [hl]
    exact tooManyRequests_isFailure

/-- **A request with a route that is not served**, and is no preflight, is answered with an
error. -/
theorem routed_own (J : TokenDecoder) (hp : g.preflight req = none)
    (h : ∀ e ∈ (g.routed J route req w).events, ¬ e.Serves) :
    IsFailure (g.routed J route req w).reply := by
  rcases routed_cases route req w g J with ⟨reply, hp', -⟩ | ⟨-, message, -, hr⟩ | ⟨-, req', -, hr⟩
  · rw [hp] at hp'
    cases hp'
  · rw [hr]
    exact unauthorized_isFailure message
  · rw [hr] at h ⊢
    exact limited_unserved route _ req' w h

end Stages

/-! ### Hits -/

/-- **A hit is answered exactly if what is stored is legal.** -/
theorem hitReply_ok_iff (cached : CachedResponse) :
    (∃ r, hitReply cached = .ok r) ↔ cached.Legal := by
  have hcache : IsName ("X-Cache".toList.map Char.toLower) ∧
      (Text.utf8 "HIT").all isValueByte = true := ⟨by decide, by decide⟩
  rw [hitReply, Builder.unwrap_body_iff, Builder.header_legal_iff, and_iff_left hcache,
    header_foldl_legal_iff, Builder.status_legal_iff, and_iff_right Builder.new_legal]
  exact ⟨fun h => ⟨h.1, h.2⟩, fun h => ⟨h.status, h.headers⟩⟩

/-- **It is answered with what is stored.** -/
theorem hitReply_repeated {cached : CachedResponse} {r : Response}
    (h : hitReply cached = .ok r) : cached.Repeated r := by
  obtain ⟨hstatus, -⟩ := (hitReply_ok_iff cached).mp ⟨r, h⟩
  have hfresh : (Builder.new.status cached.status).Gives fun p =>
      p.1 = ⟨cached.status, hstatus⟩ ∧ ∀ n, p.2.getAll n = [] := by
    intro p hp
    simp only [Builder.new, Builder.status, StatusCode.fromU16, hstatus, and_self, dite_true]
      at hp
    cases hp
    exact ⟨rfl, fun n => rfl⟩
  have hlines := hfresh.header_foldl cached.headers
  have hname : HeaderName.parse "X-Cache" = some cacheName := by decide
  have hvalue : HeaderValue.fromBytes (Text.utf8 "HIT") = some hitValue := by decide
  have hall : ((cached.headers.foldl (fun b e => b.header e.1 e.2)
      (Builder.new.status cached.status)).header "X-Cache" (Text.utf8 "HIT")).Gives fun p =>
        p.1 = ⟨cached.status, hstatus⟩ ∧ ∀ n, p.2.getAll n =
          HeaderMap.valuesIn cached.headers n ++ if n = cacheName then [hitValue] else [] := by
    refine hlines.header fun p n v hp hn hv => ⟨hp.1, fun k => ?_⟩
    cases hname.symm.trans hn
    cases hvalue.symm.trans hv
    rw [HeaderMap.getAll_append, hp.2, List.nil_append]
    simp only [eq_comm]
  obtain ⟨hs, hheaders⟩ := hall.body h
  exact ⟨congrArg StatusCode.code hs, Builder.body_of_unwrap h, hheaders⟩

/-! ### Preflights -/

/-- A preflight that is answered gets a 204, unless building it panics. -/
theorem preflight_reply {req : Request} {reply : Except Panic Response}
    (h : g.preflight req = some reply) : ∀ r, reply = .ok r → r.status.code = 204 := by
  rw [preflight] at h
  split at h
  · split at h
    · split at h
      · cases h
        exact fun r hr => (CorsLayer.buildPreflightResponse_spec hr).1
      · cases h
    · cases h
  · cases h

/-! ### Requests without a route -/

theorem notFound_status : ∃ r, notFound = .ok r ∧ r.status.code = 404 := ⟨_, rfl, rfl⟩

/-- Handling a request that no route is found for. -/
theorem handleRequest_unrouted (req : Request) (client : SocketAddr) (id : Text)
    {w : World lim κ υ δ} {d : δ}
    (h : g.router.matchRoute L.regex req w.discovery = (none, d)) :
    g.handleRequest L req client id w = ⟨notFound, { w with discovery := d }, []⟩ := by
  rw [handleRequest]
  simp only [matchRoute_stamp, h]

/-- A request with a route is not answered with the gateway's 404. -/
theorem routed_ne_notFound (J : TokenDecoder) (route : RouteMatch) (req : Request)
    (w : World lim κ υ δ) (h : (g.routed J route req w).events = []) :
    (g.routed J route req w).reply ≠ notFound := by
  obtain ⟨r₀, hr₀, hs₀⟩ := notFound_status
  intro hreply
  cases hp : g.preflight req with
  | some reply =>
      have hrouted : (g.routed J route req w).reply = reply := by rw [routed, hp]
      have h204 := preflight_reply hp r₀ (by rw [← hrouted, hreply, hr₀])
      omega
  | none =>
      obtain ⟨r, hr, -, -, h404⟩ := routed_own route req w J hp fun e he => by
        rw [h] at he
        exact absurd he List.not_mem_nil
      rw [hr, hr₀] at hreply
      cases hreply
      exact h404 hs₀

/-- **404 means no route**: the gateway's own 404 is the answer exactly when no route accepts the
request, and where the upstream of the first route that does is not resolved, the answer has the
status of that error. -/
def NotFoundMeansUnrouted (L : Libraries ρ lim κ υ δ) (g : Gateway ρ lim κ υ δ) (req : Request)
    (client : SocketAddr) (id : Text) (w : World lim κ υ δ) : Prop :=
  let h := g.handleRequest L req client id w
  (h.reply = notFound ∧ h.events = [] ↔
    ∀ entry ∈ g.router.routes, Router.entryAccepts L.regex req entry = false) ∧
  ∀ entry e, g.router.routes.find? (Router.entryAccepts L.regex req) = some entry →
    (g.router.resolveUpstream w.discovery entry.config.upstream).1 = .error e →
    ∃ r, h.reply = .ok r ∧ r.status = e.statusCode

/-- **When 404 means no route**: exactly when the upstream of the first route that accepts the
request, if there is one, resolves. -/
theorem notFound_means_unrouted_iff (L : Libraries ρ lim κ υ δ) (g : Gateway ρ lim κ υ δ)
    (req : Request) (client : SocketAddr) (id : Text) (w : World lim κ υ δ) :
    NotFoundMeansUnrouted L g req client id w ↔
      ∀ entry, g.router.routes.find? (Router.entryAccepts L.regex req) = some entry →
        ∃ url, (g.router.resolveUpstream w.discovery entry.config.upstream).1 = .ok url := by
  have hmatch := Router.matchRoute_eq_find (E := L.regex) g.router req w.discovery
  cases hf : g.router.routes.find? (Router.entryAccepts L.regex req) with
  | none =>
      -- nobody accepts, so the answer is the 404
      have hh := handleRequest_unrouted req client id (hmatch.trans (by rw [hf]; rfl))
      have hnone : ∀ entry ∈ g.router.routes, Router.entryAccepts L.regex req entry = false :=
        fun entry he => Bool.eq_false_iff.mpr (List.find?_eq_none.mp hf entry he)
      refine iff_of_true ⟨?_, fun entry e h => ?_⟩ fun entry h => ?_
      · rw [hh]
        exact ⟨fun _ => hnone, fun _ => ⟨rfl, rfl⟩⟩
      · rw [hf] at h
        cases h
      · cases h
  | some entry =>
      have hacc : Router.entryAccepts L.regex req entry = true := List.find?_some hf
      have hsome : ¬ ∀ entry ∈ g.router.routes, Router.entryAccepts L.regex req entry = false := by
        intro h
        rw [h entry (List.mem_of_find?_eq_some hf)] at hacc
        cases hacc
      rw [hf, Option.elim, Router.answer] at hmatch
      rcases hres : g.router.resolveUpstream w.discovery entry.config.upstream with ⟨_ | url, d⟩
      · rename_i e
        -- the route is there, and the answer is the 404 all the same
        rw [hres] at hmatch
        have hh := handleRequest_unrouted req client id hmatch
        refine iff_of_false (fun h => hsome (h.1.mp ?_)) fun h => ?_
        · rw [hh]
          exact ⟨rfl, rfl⟩
        · obtain ⟨url, hurl⟩ := h entry rfl
          rw [hres] at hurl
          cases hurl
      · rw [hres] at hmatch
        have hh := handleRequest_routed req client id hmatch
        refine iff_of_true ⟨iff_of_false ?_ hsome, fun entry' e h herr => ?_⟩ fun entry' h => ?_
        · rw [hh]
          rintro ⟨hreply, hevents⟩
          exact routed_ne_notFound L.tokens _ _ _ hevents hreply
        · rw [hf] at h
          cases h
          rw [hres] at herr
          cases herr
        · cases h
          exact ⟨url, by rw [hres]⟩

/-- A route to a list of endpoints that is empty. -/
def emptyRoute : RouteConfig :=
  { Router.plainRoute "lb" "/lb/**" "" with upstream := .loadBalance [] .roundRobin }

/-- The route accepts the request, its upstream is unavailable — a 502 — and the answer is that no
route matches. -/
theorem notFound_for_unresolved :
    new (plainLibraries tokenLibraries.tokens) (plainConfig [emptyRoute] none none) () =
        .ok (plainGateway [emptyRoute] none none none, ()) ∧
    ¬ NotFoundMeansUnrouted tokenLibraries (plainGateway [emptyRoute] none none none)
      (Router.plainGet "/lb/a") peer "id" (freshWorld 0) := by
  refine ⟨new_plain _ _ _ _ rfl, fun h => ?_⟩
  have hunrouted := h.1.mp ⟨rfl, rfl⟩ _ List.mem_cons_self
  exact absurd hunrouted (by decide)

end Gateway

end MiniGateway
