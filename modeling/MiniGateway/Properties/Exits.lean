import MiniGateway.Properties.CrossOrigin

/-!
# Properties — Exits

Where handling a request ends.  `exit` reads off the request and the world which of its returns
`handle_request` takes; the reply, the increments and the lookups are functions of that
(`handleRequest_exit`), so that a result about every request is a result about six exits.
-/

namespace MiniGateway

open Http RateLimit

def Event.isLookup : Event → Bool
  | .lookup .. => true
  | _ => false

namespace Gateway

variable {ρ lim κ υ δ : Type} {L : Libraries ρ lim κ υ δ} {g : Gateway ρ lim κ υ δ}

/-- The returns of `handle_request`, each with what it answers from. -/
inductive Exit where
  | unrouted
  | preflight (reply : Except Panic Response)
  | rejected (metrics : RequestMetrics) (message : Text)
  | limited (metrics : RequestMetrics)
  | hit (metrics : RequestMetrics) (cached : CachedResponse)
  | forwarded (lookedUp : Bool) (route : RouteMatch) (metrics : RequestMetrics) (req : Request)

/-- Does the limiter, if there is one, admit the request? -/
def admits (g : Gateway ρ lim κ υ δ) (w : World lim κ υ δ) (req : Request) : Bool :=
  match g.rateLimitLayer with
  | some rl =>
      (rl.limiter.checkKey w.limiter (RateLimitLayer.requestKey rl.keyStrategy req) w.now).1
  | none => true

/-- Is the request looked up in the cache? -/
def looksUp (g : Gateway ρ lim κ υ δ) (route : RouteMatch) (req : Request) : Bool :=
  g.cacheLayer.isSome && (route.cacheEnabled && decide (req.method = .get))

/-- The exit of a request with a route, once it is let in. -/
def letIn (g : Gateway ρ lim κ υ δ) (route : RouteMatch) (metrics : RequestMetrics)
    (req : Request) (w : World lim κ υ δ) : Exit :=
  if g.admits w req then
    match g.found route req w with
    | some cached => .hit metrics cached
    | none => .forwarded (g.looksUp route req) route metrics req
  else .limited metrics

/-- **Which return `handle_request` takes.** -/
def exit (L : Libraries ρ lim κ υ δ) (g : Gateway ρ lim κ υ δ) (req : Request) (id : Text)
    (w : World lim κ υ δ) : Exit :=
  match (g.router.matchRoute L.regex req w.discovery).1 with
  | none => .unrouted
  | some route =>
      let req := g.stampRequestId id req
      let metrics : RequestMetrics := ⟨req.method.text, req.uri.path, route.routeId⟩
      match g.preflight req with
      | some reply => .preflight reply
      | none =>
          match g.authenticate L.tokens (w.now / nanos) req with
          | .error message => .rejected metrics message
          | .ok req => g.letIn route metrics req w

/-! ### What an exit leaves behind -/

/-- The reply at an exit, from the state of the upstream. -/
def Exit.reply (g : Gateway ρ lim κ υ δ) (u : υ) : Exit → Except Panic Response
  | .unrouted => notFound
  | .preflight reply => reply
  | .rejected _ message => unauthorized message
  | .limited _ => tooManyRequests
  | .hit _ cached => hitReply cached
  | .forwarded _ route metrics req =>
      match (g.proxyClient.proxy req route metrics u).1.result with
      | .ok response => g.withCors response
      | .error e => errorReply e

/-- The increments made on the way to an exit. -/
def Exit.samples (g : Gateway ρ lim κ υ δ) (u : υ) : Exit → List Sample
  | .unrouted | .preflight _ => []
  | .rejected metrics _ => [metrics.recordAuthFailure]
  | .limited metrics => [metrics.recordRateLimited]
  | .hit metrics _ => [metrics.recordCacheHit]
  | .forwarded _ route metrics req => (g.proxyClient.proxy req route metrics u).2

/-- The lookups made on the way to an exit. -/
def Exit.lookups : Exit → Nat
  | .hit .. => 1
  | .forwarded lookedUp .. => if lookedUp then 1 else 0
  | _ => 0

/-- What was handled is what the exit says, from the world it began in. -/
structure Ends (g : Gateway ρ lim κ υ δ) (w : World lim κ υ δ) (h : Handled lim κ υ δ)
    (e : Exit) : Prop where
  reply : h.reply = e.reply g w.upstream
  increments : h.world.increments = w.increments ++ e.samples g w.upstream
  lookups : h.events.countP Event.isLookup = e.lookups

/-! ### The stages -/

section Stages

variable (route : RouteMatch) (metrics : RequestMetrics) (req : Request) (w : World lim κ υ δ)

/-- The proxy looks nothing up. -/
theorem countP_isLookup_proxy (p : ProxyClient υ) (u : υ) :
    (p.proxy req route metrics u).1.events.countP Event.isLookup = 0 := by
  refine List.countP_eq_zero.mpr fun e he => ?_
  rcases ProxyClient.proxy_events p req route metrics u he with ⟨ms, rfl⟩ | ⟨out, -, rfl⟩
  · exact Bool.false_ne_true
  · exact Bool.false_ne_true

theorem cached_ends :
    Ends g w (g.cached route metrics req w) (match g.found route req w with
      | some cached => .hit metrics cached
      | none => .forwarded (g.looksUp route req) route metrics req) := by
  have hproxy := countP_isLookup_proxy route metrics req g.proxyClient w.upstream
  have hmiss : ∀ key, (Event.lookup key false ::
      (g.proxyClient.proxy req route metrics w.upstream).1.events).countP Event.isLookup = 1 :=
    fun key => by rw [List.countP_cons_of_pos rfl, hproxy]
  rw [cached, found, looksUp]
  cases g.cacheLayer with
  | none => exact ⟨rfl, rfl, hproxy⟩
  | some cache =>
      simp only [Option.isSome_some, Bool.true_and]
      split
      · rename_i hlook
        rw [hlook]
        rcases cache.backend.get w.cache (cache.buildKey req) with ⟨_ | _ | c, k⟩
        · exact ⟨rfl, rfl, hmiss _⟩
        · exact ⟨rfl, rfl, hmiss _⟩
        · exact ⟨rfl, rfl, rfl⟩
      · rename_i hlook
        rw [Bool.eq_false_iff.mpr hlook]
        exact ⟨rfl, rfl, hproxy⟩

theorem limited_ends :
    Ends g w (g.limited route metrics req w) (g.letIn route metrics req w) := by
  rw [letIn, admits]
  rcases limited_cases route metrics req w g with ⟨hr, h⟩ | ⟨rl, l, hr, hcheck, h⟩ |
      ⟨rl, l, hr, hcheck, h⟩
  · rw [h, hr]
    exact cached_ends route metrics req w
  · obtain ⟨hreply, hmetrics, hlookups⟩ :=
      cached_ends (g := g) route metrics req { w with limiter := l }
    simp only [hr, hcheck, if_true]
    rw [h]
    exact ⟨hreply, hmetrics, hlookups⟩
  · simp only [hr, hcheck, Bool.false_eq_true, if_false]
    rw [h]
    exact ⟨rfl, rfl, rfl⟩

end Stages

/-- **Every request ends at its exit.** -/
theorem handleRequest_exit (L : Libraries ρ lim κ υ δ) (g : Gateway ρ lim κ υ δ) (req : Request)
    (client : SocketAddr) (id : Text) (w : World lim κ υ δ) :
    Ends g w (g.handleRequest L req client id w) (g.exit L req id w) := by
  rw [exit]
  rcases hmatch : g.router.matchRoute L.regex req w.discovery with ⟨_ | route, d⟩
  · rw [handleRequest_unrouted req client id hmatch]
    exact ⟨rfl, (List.append_nil _).symm, rfl⟩
  · rw [handleRequest_routed req client id hmatch]
    simp only
    rcases routed_cases route (g.stampRequestId id req) { w with discovery := d } g L.tokens with
      ⟨reply, hp, h⟩ | ⟨hp, message, ha, h⟩ | ⟨hp, req', ha, h⟩
    · rw [h, hp]
      exact ⟨rfl, (List.append_nil _).symm, rfl⟩
    · simp only at ha
      rw [h, hp]
      simp only [ha]
      exact ⟨rfl, rfl, rfl⟩
    · simp only at ha
      obtain ⟨hreply, hmetrics, hlookups⟩ := limited_ends (g := g) route
        ⟨(g.stampRequestId id req).method.text, (g.stampRequestId id req).uri.path, route.routeId⟩
        req' { w with discovery := d }
      rw [h, hp]
      simp only [ha]
      exact ⟨hreply, hmetrics, hlookups⟩

end Gateway

end MiniGateway
