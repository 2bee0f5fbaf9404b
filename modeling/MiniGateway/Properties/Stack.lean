import MiniGateway.Properties.AuthService

/-!
# Properties — Stack

`AuthService` around `RateLimitService` around the proxy, against `handle_request` behind its
router.

The services are awaited as they are called.  Without CORS, and with nothing to look up, they give
the answers of `handle_request` and leave the limiter and the upstreams as it does, if the `sub` of
a token that validates is a legal header value (`stack_agrees`); only refusals are not counted.
-/

namespace MiniGateway

open Http RateLimit

variable {ρ lim κ υ δ σ ε : Type}

/-- Call, and await. -/
def awaited (service : AsyncService σ ε) : Service σ ε where
  call s req := (service.call s req).1 (service.call s req).2

/-- What the proxy reaches: the upstreams, the recorder, and what was done. -/
structure Outside (υ : Type) where
  upstream : υ
  increments : List Sample
  events : List Event

namespace Gateway

/-- The proxy as a service; errors are answered as `handle_request` answers them. -/
def proxyService (g : Gateway ρ lim κ υ δ) (route : RouteMatch) (metrics : RequestMetrics) :
    AsyncService (Outside υ) Empty where
  call o req := (fun o =>
    let sent := g.proxyClient.proxy req route metrics o.upstream
    ((match sent.1.result with
      | .ok response => .ok (.ok response)
      | .error e => (errorReply e).map .ok),
      ⟨sent.1.upstream, o.increments ++ sent.2, o.events ++ sent.1.events⟩), o)

/-- The services around it. -/
def stack (J : TokenDecoder) (now : Nat) (auth : AuthLayer) (rl : RateLimitLayer lim)
    (g : Gateway ρ lim κ υ δ) (route : RouteMatch) (metrics : RequestMetrics) :
    Service (lim × Outside υ) Empty where
  call := AuthService.call J (now / nanos)
    ⟨awaited (RateLimitService.service now ⟨g.proxyService route metrics, rl.limiter,
      rl.keyStrategy⟩), auth⟩

/-- The world, as far as the services reach. -/
def reach (w : World lim κ υ δ) : lim × Outside υ := (w.limiter, ⟨w.upstream, w.increments, []⟩)

/-- **The services have done as much as `handle_request`**: but for the limiter's checks, which are
no event of theirs, and the count of a refusal. -/
structure Matches (w : World lim κ υ δ)
    (answer : Except Panic (Except Empty Response) × lim × Outside υ) (h : Handled lim κ υ δ) :
    Prop where
  reply : answer.1 = h.reply.map .ok
  limiter : answer.2.1 = h.world.limiter
  upstream : answer.2.2.upstream = h.world.upstream
  events : answer.2.2.events = h.events.filter fun e => match e with
    | .tick .. => false
    | _ => true
  increments : answer.2.2.increments = h.world.increments ∨
    answer.2.2.increments = w.increments ∧ ∃ sample, h.world.increments = w.increments ++ [sample]

variable {g : Gateway ρ lim κ υ δ} {route : RouteMatch} {metrics : RequestMetrics}

/-- The proxy does what `forward` does, without CORS. -/
theorem proxyService_matches (hcors : g.corsLayer = none) (route : RouteMatch)
    (metrics : RequestMetrics) (req : Request) (w : World lim κ υ δ) (l : lim) :
    let answer := (awaited (g.proxyService route metrics)).call ⟨w.upstream, w.increments, []⟩ req
    Matches w (answer.1, l, answer.2)
      (g.forward route metrics req { w with limiter := l }) := by
  refine ⟨?_, rfl, rfl, ?_, Or.inl rfl⟩
  · simp only [awaited, proxyService, forward, withCors, hcors]
    cases (g.proxyClient.proxy req route metrics w.upstream).1.result <;> rfl
  · simp only [awaited, proxyService, forward, List.nil_append]
    refine (List.filter_eq_self.mpr fun e he => ?_).symm
    rcases ProxyClient.proxy_events _ _ _ _ _ he with ⟨ms, rfl⟩ | ⟨out, -, rfl⟩ <;> rfl

/-- Nothing is looked up. -/
def Uncached (g : Gateway ρ lim κ υ δ) (route : RouteMatch) (req : Request) : Prop :=
  g.cacheLayer = none ∨ route.cacheEnabled = false ∨ req.method ≠ .get

theorem cached_eq_forward {req : Request} (h : g.Uncached route req) (w : World lim κ υ δ) :
    g.cached route metrics req w = g.forward route metrics req w := by
  rw [cached]
  rcases h with h | h | h
  · rw [h]
  · split <;> simp [h]
  · split <;> simp [h]

/-- The limiter's service does what the limiter's stage does. -/
theorem limitService_matches {rl : RateLimitLayer lim} (hrl : g.rateLimitLayer = some rl)
    (hcors : g.corsLayer = none) {req : Request} (hcache : g.Uncached route req)
    (w : World lim κ υ δ) :
    Matches w ((awaited (RateLimitService.service w.now ⟨g.proxyService route metrics, rl.limiter,
      rl.keyStrategy⟩)).call (reach w) req) (g.limited route metrics req w) := by
  rcases limited_cases route metrics req w g with ⟨hnone, -⟩ | ⟨rl', l, hr, hcheck, h⟩ |
      ⟨rl', l, hr, hcheck, h⟩
  · rw [hrl] at hnone
    cases hnone
  · rw [hrl] at hr
    cases hr
    obtain ⟨hreply, hlim, hup, hevents, hmetrics⟩ :=
      proxyService_matches hcors route metrics req w l
    rw [h, cached_eq_forward hcache]
    simp only [awaited, RateLimitService.service, RateLimitService.call, reach, hcheck]
    exact ⟨hreply, rfl, hup, hevents, hmetrics⟩
  · rw [hrl] at hr
    cases hr
    rw [h]
    simp only [awaited, RateLimitService.service, RateLimitService.call, reach, hcheck]
    exact ⟨rfl, rfl, rfl, rfl, Or.inr ⟨rfl, _, rfl⟩⟩

/-- **The services agree with `handle_request`** behind its router: without CORS and where nothing
is looked up, for every request whose token, if it validates, names a user in legal header text.
The answer is the same, what is sent is the same, and the limiter and the upstreams are left
alike. -/
theorem stack_agrees {auth : AuthLayer} {rl : RateLimitLayer lim} (hauth : g.authLayer = some auth)
    (hrl : g.rateLimitLayer = some rl) (hcors : g.corsLayer = none) {req : Request}
    (hcache : g.Uncached route req) (J : TokenDecoder) (w : World lim κ υ δ)
    (hsub : ∀ c, Validates J (w.now / nanos) auth req c →
      ∃ value, HeaderValue.fromStr c.sub = some value) :
    Matches w ((g.stack J w.now auth rl route ⟨req.method.text, req.uri.path, route.routeId⟩).call
      (reach w) req) (g.routed J route req w) := by
  have hstack : ∀ next : Service (lim × Outside υ) Empty,
      AuthService.call J (w.now / nanos) ⟨next, auth⟩ (reach w) req =
        (g.authStage J (w.now / nanos) next).call (reach w) req := by
    intro next
    rcases authStage_cases hauth J (w.now / nanos) next (reach w) req with ⟨-, h⟩ |
        ⟨c, hc, hstage, hservice⟩
    · exact h.symm
    · obtain ⟨value, hvalue⟩ := hsub c hc
      rw [hstage, hservice, withUserId, hvalue]
      rfl
  have hpre : g.preflight req = none := by rw [preflight, hcors]
  rw [stack]
  simp only [hstack, authStage]
  rcases routed_cases route req w g J with ⟨reply, h, -⟩ | ⟨-, message, ha, h⟩ | ⟨-, req', ha, h⟩
  · rw [hpre] at h
    cases h
  · rw [h, ha]
    exact ⟨rfl, rfl, rfl, rfl, Or.inr ⟨rfl, _, rfl⟩⟩
  · rw [h, ha]
    obtain ⟨headers, hreq'⟩ := authenticate_headers ha
    refine limitService_matches hrl hcors ?_ w
    rcases hcache with h | h | h
    · exact Or.inl h
    · exact Or.inr (Or.inl h)
    · refine Or.inr (Or.inr ?_)
      rw [hreq']
      exact h

/-- A request with a token that validates, some time before it runs out. -/
def fullGet : Request := tokenGet "/api/users" AuthLayer.fullToken
def lateWorld : World (Text → Nat) (List (Text × CachedResponse)) Unit Unit :=
  freshWorld (1700000000 * nanos)

/-- The services answer it as `handle_request` does. -/
theorem stack_agrees_full :
    Matches lateWorld ((guarded.stack tokenLibraries.tokens lateWorld.now AuthLayer.pinnedLayer
        (RateLimitLayer.new gcra 1 1 .global) apiMatch
        ⟨fullGet.method.text, fullGet.uri.path, apiMatch.routeId⟩).call (reach lateWorld) fullGet)
      (guarded.routed tokenLibraries.tokens apiMatch fullGet lateWorld) := by
  refine stack_agrees (g := guarded) rfl rfl rfl (Or.inl rfl) tokenLibraries.tokens lateWorld ?_
  rintro c ⟨-, -, token, ht, hv⟩
  have hsecs : lateWorld.now / nanos = 1700000000 := by decide
  cases (extractToken_fullToken "/api/users").symm.trans ht
  cases AuthLayer.pinnedLayer_accepts_full.symm.trans (hsecs ▸ hv)
  exact ⟨userValue, by decide⟩

end Gateway

end MiniGateway
