import MiniGateway.Properties.Pipeline
import MiniGateway.Properties.Retrying
import MiniGateway.Source.Server

/-!
# Properties — Stages

The stages of `handle_request`, one after the other, against `handle_request` in one piece.

`Advances` says everything a step can do; what a step keeps is shown along its cases.

`finish` is what is left to do at a stage if nothing comes in between.  A step does the first part
of it (`finish_advance`), and the steps come to an end (`advance_stepsLeft`); so a request that is left
alone is handled as `handleRequest` says (`runStages_handleRequest`).
-/

namespace MiniGateway

open Http RateLimit

variable {ρ lim κ υ δ : Type}

/-- The same, after more events. -/
def Handled.afterAll (events : List Event) (h : Handled lim κ υ δ) : Handled lim κ υ δ :=
  { h with events := events ++ h.events }

namespace ProxyClient

/-- The end of `proxy`, with what the attempts came to. -/
def concluded (metrics : RequestMetrics) (sent : Sent υ UpstreamResponse) :
    Sent υ Response × List Sample :=
  match sent.result with
  | .error e => (⟨.error e, sent.upstream, sent.events⟩, [])
  | .ok resp =>
      match resp.body with
      | .error e => (⟨.error (.proxy ("Response body error: ".toList ++ e)),
          sent.upstream, sent.events⟩, [])
      | .ok bytes =>
          let samples := metrics.recordSuccess resp.status.code
          match response resp bytes with
          | .ok r => (⟨.ok r, sent.upstream, sent.events⟩, samples)
          | .error e => (⟨.error (.httpBody e), sent.upstream, sent.events⟩, samples)

end ProxyClient

namespace Gateway

variable (L : Libraries ρ lim κ υ δ) (g : Gateway ρ lim κ υ δ) (id : Text)

/-- The end of `handle_request`, with what `proxy` came to. -/
def replied (w : World lim κ υ δ) (sent : Sent υ Response × List Sample) : Handled lim κ υ δ where
  reply := match sent.1.result with
    | .ok response => g.withCors response
    | .error e => errorReply e
  world := { w with upstream := sent.1.upstream, increments := w.increments ++ sent.2 }
  events := sent.1.events

/-- **What is left to do at a stage**, in one piece. -/
def finish (w : World lim κ υ δ) : Stage → Handled lim κ υ δ
  | .matching req =>
      match g.router.matchRoute L.regex req w.discovery with
      | (some route, d) => g.routed L.tokens route req { w with discovery := d }
      | (none, d) => ⟨notFound, { w with discovery := d }, []⟩
  | .checking route req => g.routed L.tokens route req w
  | .limiting route metrics req => g.limited route metrics req w
  | .lookingUp route metrics req => g.cached route metrics req w
  | .sending s => g.replied w (ProxyClient.concluded s.metrics (ProxyClient.attempts
      g.proxyClient.client s.request s.maxAttempts s.backoff s.left s.attempt w.upstream))
  | .answered reply => ⟨reply, w, []⟩

/-- The first steps from a stage, if nothing comes in between. -/
def runStages : Nat → World lim κ υ δ → Stage → Progress lim κ υ δ
  | 0, w, stage => ⟨stage, w, [], []⟩
  | n + 1, w, stage =>
      let p := g.advance L id w stage
      let q := runStages n p.world p.stage
      { q with events := p.events ++ q.events, logs := p.logs ++ q.logs }

variable {L g}

/-! ### What a step can do -/

/-- Nothing was found in the cache: it was not asked, or it was. -/
inductive Missed (g : Gateway ρ lim κ υ δ) (w : World lim κ υ δ) (req : Request) :
    κ → List Event → Prop where
  | unasked : Missed g w req w.cache []
  | asked {cache : CacheLayer κ} (h : g.cacheLayer = some cache) :
      Missed g w req (cache.backend.get w.cache (cache.buildKey req)).2
        [.lookup (cache.buildKey req) false]

/-- An attempt was made, or none. -/
inductive Tried (g : Gateway ρ lim κ υ δ) (w : World lim κ υ δ) (s : Sending) :
    υ → List Event → Prop where
  | unsent : Tried g w s w.upstream []
  | sent {request : OutRequest} {left : Nat} (hleft : s.left = left + 1)
      (h : s.request = some request) :
      Tried g w s (g.proxyClient.client.send w.upstream request).2 [.send request]

/-- The answer after `proxy`. -/
def Concludes (g : Gateway ρ lim κ υ δ) (reply : Except Panic Response) : Prop :=
  (∃ e, reply = errorReply e) ∨ ∃ r, reply = g.withCors r

/-- **Everything a step can do.** -/
inductive Advances (L : Libraries ρ lim κ υ δ) (g : Gateway ρ lim κ υ δ) (id : Text)
    (w : World lim κ υ δ) : Stage → Progress lim κ υ δ → Prop where
  | unrouted {req : Request} {d : δ}
      (h : g.router.matchRoute L.regex req w.discovery = (none, d)) :
      Advances L g id w (.matching req) ⟨.answered notFound, { w with discovery := d }, [], []⟩
  | matched {req : Request} {route : RouteMatch} {d : δ}
      (h : g.router.matchRoute L.regex req w.discovery = (some route, d)) :
      Advances L g id w (.matching req) ⟨.checking route req, { w with discovery := d }, [], []⟩
  | preflight {route : RouteMatch} {req : Request} {reply : Except Panic Response}
      (h : g.preflight req = some reply) :
      Advances L g id w (.checking route req) ⟨.answered reply, w, [], []⟩
  | rejected {route : RouteMatch} {req : Request} {message : Text} (hp : g.preflight req = none)
      (h : g.authenticate L.tokens (w.now / nanos) req = .error message) :
      Advances L g id w (.checking route req) ⟨.answered (unauthorized message),
        w.record (RequestMetrics.mk req.method.text req.uri.path route.routeId).recordAuthFailure,
        [], []⟩
  | authenticated {route : RouteMatch} {req req' : Request} (hp : g.preflight req = none)
      (h : g.authenticate L.tokens (w.now / nanos) req = .ok req') :
      Advances L g id w (.checking route req)
        ⟨.limiting route ⟨req.method.text, req.uri.path, route.routeId⟩ req', w, [], []⟩
  | unlimited {route : RouteMatch} {metrics : RequestMetrics} {req : Request}
      (h : g.rateLimitLayer = none) :
      Advances L g id w (.limiting route metrics req) ⟨.lookingUp route metrics req, w, [], []⟩
  | admitted {route : RouteMatch} {metrics : RequestMetrics} {req : Request}
      {rl : RateLimitLayer lim} {l : lim} (h : g.rateLimitLayer = some rl)
      (hl : rl.limiter.checkKey w.limiter (RateLimitLayer.requestKey rl.keyStrategy req) w.now =
        (true, l)) :
      Advances L g id w (.limiting route metrics req) ⟨.lookingUp route metrics req,
        { w with limiter := l }, [.tick (RateLimitLayer.requestKey rl.keyStrategy req) true], []⟩
  | refused {route : RouteMatch} {metrics : RequestMetrics} {req : Request}
      {rl : RateLimitLayer lim} {l : lim} (h : g.rateLimitLayer = some rl)
      (hl : rl.limiter.checkKey w.limiter (RateLimitLayer.requestKey rl.keyStrategy req) w.now =
        (false, l)) :
      Advances L g id w (.limiting route metrics req) ⟨.answered tooManyRequests,
        { w with limiter := l }.record metrics.recordRateLimited,
        [.tick (RateLimitLayer.requestKey rl.keyStrategy req) false], []⟩
  | hit {route : RouteMatch} {metrics : RequestMetrics} {req : Request} {cache : CacheLayer κ}
      {found : CachedResponse} {k : κ} (h : g.cacheLayer = some cache)
      (hk : cache.backend.get w.cache (cache.buildKey req) = (.ok (some found), k)) :
      Advances L g id w (.lookingUp route metrics req) ⟨.answered (hitReply found),
        { w with cache := k }.record metrics.recordCacheHit,
        [.lookup (cache.buildKey req) true], []⟩
  | unprepared {route : RouteMatch} {metrics : RequestMetrics} {req : Request} {k : κ}
      {events : List Event} {e : GatewayError} (h : Missed g w req k events) :
      Advances L g id w (.lookingUp route metrics req)
        (complete id metrics { w with cache := k } events (errorReply e))
  | prepared {route : RouteMatch} {metrics : RequestMetrics} {req : Request} {k : κ}
      {events : List Event} {request : Option OutRequest} (h : Missed g w req k events) :
      Advances L g id w (.lookingUp route metrics req)
        ⟨.sending ⟨metrics, request, ProxyClient.attemptsOf route.retry,
          route.retry.map (·.backoffMs), ProxyClient.attemptsOf route.retry, 1⟩,
          { w with cache := k }, events, []⟩
  | again {s : Sending} {request : OutRequest} {left : Nat} (hleft : s.left = left + 1)
      (h : s.request = some request) :
      Advances L g id w (.sending s) ⟨.sending { s with left := left, attempt := s.attempt + 1 },
        { w with upstream := (g.proxyClient.client.send w.upstream request).2 },
        .send request :: ProxyClient.pause s.backoff s.attempt, []⟩
  | concluded {s : Sending} {u : υ} {events : List Event} {samples : List Sample}
      {reply : Except Panic Response} (h : Tried g w s u events) (hreply : g.Concludes reply) :
      Advances L g id w (.sending s) (complete id s.metrics
        { w with upstream := u, increments := w.increments ++ samples } events reply)
  | answered {reply : Except Panic Response} :
      Advances L g id w (.answered reply) ⟨.answered reply, w, [], []⟩

section Advances

variable (w : World lim κ υ δ)

/-- The beginning of `proxy` fails, or comes to the first attempt. -/
theorem advances_prepare (route : RouteMatch) (metrics : RequestMetrics) (req : Request) {k : κ}
    {events : List Event} (h : Missed g w req k events) :
    Advances L g id w (.lookingUp route metrics req)
      (g.prepare id route metrics req { w with cache := k } events) := by
  rw [prepare]
  split
  · exact .unprepared h
  · split
    · exact .unprepared h
    · exact .prepared h

/-- The end of `proxy`, with a response or without. -/
theorem advances_error {s : Sending} {u : υ} {events : List Event} (h : Tried g w s u events)
    (e : GatewayError) : Advances L g id w (.sending s)
      (completeError id s.metrics { w with upstream := u } events e) := by
  have hconcluded : Advances L g id w (.sending s) (complete id s.metrics
      { w with upstream := u, increments := w.increments ++ [] } events (errorReply e)) :=
    .concluded h (Or.inl ⟨e, rfl⟩)
  rwa [List.append_nil] at hconcluded

theorem advances_receive {s : Sending} {u : υ} {events : List Event} (h : Tried g w s u events)
    (resp : UpstreamResponse) : Advances L g id w (.sending s)
      (g.receive id s.metrics { w with upstream := u } events resp) := by
  rw [receive]
  split
  · exact advances_error id w h _
  · simp only
    split
    · exact .concluded h (Or.inr ⟨_, rfl⟩)
    · exact .concluded h (Or.inl ⟨_, rfl⟩)

theorem advances_attempt (s : Sending) : Advances L g id w (.sending s) (g.attempt id s w) := by
  rw [attempt]
  split
  · exact advances_error id w .unsent _
  · rename_i left hleft
    split
    · exact advances_error id w .unsent _
    · rename_i request hrequest
      simp only
      split
      · rename_i resp u hu
        obtain rfl : (g.proxyClient.client.send w.upstream request).2 = u := by rw [hu]
        split
        · exact .again hleft hrequest
        · exact advances_receive id w (.sent hleft hrequest) resp
      · rename_i e u hu
        obtain rfl : (g.proxyClient.client.send w.upstream request).2 = u := by rw [hu]
        split
        · exact .again hleft hrequest
        · exact advances_error id w (.sent hleft hrequest) _

/-- **A step does one of these.** -/
theorem advance_advances (stage : Stage) : Advances L g id w stage (g.advance L id w stage) := by
  cases stage with
  | matching req =>
      rw [advance]
      split
      · rename_i route d h
        exact .matched h
      · rename_i d h
        exact .unrouted h
  | checking route req =>
      rw [advance]
      split
      · rename_i reply h
        exact .preflight h
      · rename_i hp
        split
        · rename_i message h
          exact .rejected hp h
        · rename_i req' h
          exact .authenticated hp h
  | limiting route metrics req =>
      rw [advance]
      split
      · rename_i rl h
        simp only
        split
        · rename_i l hl
          exact .admitted h hl
        · rename_i l hl
          exact .refused h hl
      · rename_i h
        exact .unlimited h
  | lookingUp route metrics req =>
      rw [advance]
      split
      · rename_i cache h
        split
        · simp only
          split
          · rename_i found k hk
            exact .hit h hk
          · rename_i k _ hk
            obtain rfl : (cache.backend.get w.cache (cache.buildKey req)).2 = k := by rw [hk]
            exact advances_prepare id w route metrics req (.asked h)
        · exact advances_prepare id w route metrics req .unasked
      · exact advances_prepare id w route metrics req .unasked
  | sending s => exact advances_attempt id w s
  | answered reply => exact .answered

end Advances

/-! ### One step -/

/-- What a step comes to, if nothing comes in between. -/
def resumed (L : Libraries ρ lim κ υ δ) (g : Gateway ρ lim κ υ δ) (p : Progress lim κ υ δ) :
    Handled lim κ υ δ :=
  (g.finish L p.world p.stage).afterAll p.events

theorem resumed_complete (metrics : RequestMetrics) (w : World lim κ υ δ) (events : List Event)
    (reply : Except Panic Response) :
    g.resumed L (complete id metrics w events reply) = ⟨reply, w, events⟩ := by
  simp only [resumed, complete, finish, Handled.afterAll, List.append_nil]

theorem resumed_error (metrics : RequestMetrics) (w : World lim κ υ δ) (u : υ)
    (events : List Event) (e : GatewayError) :
    g.resumed L (completeError id metrics { w with upstream := u } events e) =
      g.replied w (ProxyClient.concluded metrics ⟨.error e, u, events⟩) := by
  rw [completeError, resumed_complete]
  simp only [replied, ProxyClient.concluded, List.append_nil]

theorem resumed_receive (metrics : RequestMetrics) (w : World lim κ υ δ) (u : υ)
    (events : List Event) (resp : UpstreamResponse) :
    g.resumed L (g.receive id metrics { w with upstream := u } events resp) =
      g.replied w (ProxyClient.concluded metrics ⟨.ok resp, u, events⟩) := by
  simp only [receive, ProxyClient.concluded]
  cases resp.body with
  | error e =>
      simp only [completeError]
      rw [resumed_complete]
      simp only [replied, List.append_nil]
  | ok bytes =>
      simp only
      cases ProxyClient.response resp bytes with
      | error e =>
          simp only [completeError]
          rw [resumed_complete]
          rfl
      | ok r =>
          simp only
          rw [resumed_complete]
          rfl

/-- What came before an attempt comes before what it is replied. -/
theorem replied_concluded_cons (metrics : RequestMetrics) (w : World lim κ υ δ)
    (sent : Sent υ UpstreamResponse) (events : List Event) :
    g.replied w (ProxyClient.concluded metrics { sent with events := events ++ sent.events }) =
      (g.replied w (ProxyClient.concluded metrics sent)).afterAll events := by
  rw [ProxyClient.concluded, ProxyClient.concluded]
  cases sent.result with
  | error e => rfl
  | ok resp =>
      simp only
      cases resp.body with
      | error e => rfl
      | ok bytes =>
          simp only
          cases ProxyClient.response resp bytes <;> rfl

theorem finish_attempt (s : Sending) (w : World lim κ υ δ) :
    g.finish L w (.sending s) = g.resumed L (g.attempt id s w) := by
  obtain ⟨metrics, request, maxAttempts, backoff, left, attempt⟩ := s
  rw [finish, Gateway.attempt]
  cases left with
  | zero => exact (resumed_error id metrics w w.upstream [] _).symm
  | succ left =>
      cases request with
      | none => exact (resumed_error id metrics w w.upstream [] _).symm
      | some request =>
          -- another attempt: the rest of the loop is what is left at the next stage
          have hagain : ∀ u : υ, g.replied w (ProxyClient.concluded metrics
              { ProxyClient.attempts g.proxyClient.client (some request) maxAttempts backoff left
                  (attempt + 1) u with
                events := .send request :: ProxyClient.pause backoff attempt ++
                  (ProxyClient.attempts g.proxyClient.client (some request) maxAttempts backoff left
                    (attempt + 1) u).events }) =
              g.resumed L ⟨.sending ⟨metrics, some request, maxAttempts, backoff, left,
                attempt + 1⟩, { w with upstream := u },
                .send request :: ProxyClient.pause backoff attempt, []⟩ := fun u =>
            replied_concluded_cons metrics w _ _
          simp only [ProxyClient.attempts]
          cases g.proxyClient.client.send w.upstream request with
          | mk outcome u =>
              cases outcome with
              | ok resp =>
                  simp only
                  split
                  · exact hagain u
                  · exact (resumed_receive id metrics w u _ resp).symm
              | error e =>
                  simp only
                  split
                  · exact hagain u
                  · exact (resumed_error id metrics w u _ _).symm

/-- The beginning of `proxy`. -/
theorem forward_prepare (route : RouteMatch) (metrics : RequestMetrics) (req : Request)
    (w : World lim κ υ δ) (events : List Event) :
    (g.forward route metrics req w).afterAll events =
      g.resumed L (g.prepare id route metrics req w events) := by
  rw [forward, prepare, ProxyClient.proxy]
  cases Method.parse req.method.text with
  | none =>
      simp only [completeError]
      rw [resumed_complete]
      simp only [Handled.afterAll, List.append_nil]
  | some method =>
      cases req.body with
      | error e =>
          simp only [completeError]
          rw [resumed_complete]
          simp only [Handled.afterAll, List.append_nil]
      | ok body => rfl

/-- **A step does the first part of what is left to do.** -/
theorem finish_advance (w : World lim κ υ δ) (stage : Stage) :
    g.finish L w stage = g.resumed L (g.advance L id w stage) := by
  cases stage with
  | matching req =>
      rw [finish, advance]
      rcases g.router.matchRoute L.regex req w.discovery with ⟨_ | route, d⟩ <;> rfl
  | checking route req =>
      rw [finish, advance, routed]
      cases g.preflight req with
      | some reply => rfl
      | none =>
          simp only
          cases g.authenticate L.tokens (w.now / nanos) req <;> rfl
  | limiting route metrics req =>
      rw [finish, advance, limited]
      cases g.rateLimitLayer with
      | none => rfl
      | some rl =>
          simp only
          rcases rl.limiter.checkKey w.limiter (RateLimitLayer.requestKey rl.keyStrategy req)
            w.now with ⟨_ | _, l⟩ <;> rfl
  | lookingUp route metrics req =>
      rw [finish, advance, cached]
      cases g.cacheLayer with
      | none => exact forward_prepare id route metrics req w []
      | some cache =>
          simp only
          split
          · rcases cache.backend.get w.cache (cache.buildKey req) with ⟨_ | _ | cached, k⟩
            · exact forward_prepare id route metrics req _ [_]
            · exact forward_prepare id route metrics req _ [_]
            · rfl
          · exact forward_prepare id route metrics req w []
  | sending s => exact finish_attempt id s w
  | answered reply => rfl

/-! ### The steps come to an end -/

/-- The most attempts a route of the gateway asks for. -/
def maxAttempts (g : Gateway ρ lim κ υ δ) : Nat :=
  (g.router.routes.map fun e => ProxyClient.attemptsOf e.config.retry).foldr max 0

/-- How many steps there are at most from a stage on. -/
def stepsLeft (g : Gateway ρ lim κ υ δ) : Stage → Nat
  | .matching _ => g.maxAttempts + 5
  | .checking route _ => ProxyClient.attemptsOf route.retry + 4
  | .limiting route _ _ => ProxyClient.attemptsOf route.retry + 3
  | .lookingUp route _ _ => ProxyClient.attemptsOf route.retry + 2
  | .sending s => s.left + 1
  | .answered _ => 0

theorem le_foldr_max {l : List Nat} {n : Nat} (h : n ∈ l) : n ≤ l.foldr max 0 := by
  induction l with
  | nil => cases h
  | cons m l ih =>
      rw [List.foldr_cons]
      rcases List.mem_cons.mp h with rfl | h
      · exact Nat.le_max_left _ _
      · exact Nat.le_trans (ih h) (Nat.le_max_right _ _)

/-- A route that is matched is one of the gateway's. -/
theorem attemptsOf_le {req : Request} {d d' : δ} {route : RouteMatch}
    (h : g.router.matchRoute L.regex req d = (some route, d')) :
    ProxyClient.attemptsOf route.retry ≤ g.maxAttempts := by
  rw [Router.matchRoute_eq_find] at h
  cases hfind : g.router.routes.find? (Router.entryAccepts L.regex req) with
  | none =>
      rw [hfind] at h
      cases h
  | some entry =>
      rw [hfind, Option.elim_some, Router.answer] at h
      have hretry : route.retry = entry.config.retry := by
        split at h
        · cases h
          rfl
        · cases h
      rw [hretry]
      exact le_foldr_max (List.mem_map_of_mem (List.mem_of_find?_eq_some hfind))

/-- **Each step brings the end nearer.** -/
theorem advance_stepsLeft (w : World lim κ υ δ) {stage : Stage}
    (hopen : ∀ reply, stage ≠ .answered reply) :
    g.stepsLeft (g.advance L id w stage).stage < g.stepsLeft stage := by
  have h := advance_advances (L := L) (g := g) id w stage
  generalize g.advance L id w stage = p at h ⊢
  cases h with
  | matched h =>
      have hle := attemptsOf_le h
      simp only [stepsLeft]
      omega
  | authenticated => exact Nat.lt_succ_self _
  | unlimited => exact Nat.lt_succ_self _
  | admitted => exact Nat.lt_succ_self _
  | prepared => exact Nat.lt_succ_self _
  | again hleft => exact Nat.succ_lt_succ (hleft ▸ Nat.lt_succ_self _)
  | answered => exact absurd rfl (hopen _)
  | _ => exact Nat.succ_pos _

/-! ### Runs of steps -/

theorem Handled.afterAll_afterAll (e₁ e₂ : List Event) (h : Handled lim κ υ δ) :
    (h.afterAll e₂).afterAll e₁ = h.afterAll (e₁ ++ e₂) := by
  simp only [Handled.afterAll, List.append_assoc]

/-- Some steps do some of what is left to do. -/
theorem finish_runStages (n : Nat) (w : World lim κ υ δ) (stage : Stage) :
    g.finish L w stage = g.resumed L (g.runStages L id n w stage) := by
  induction n generalizing w stage with
  | zero => rfl
  | succ n ih =>
      rw [finish_advance id w stage, resumed, ih, resumed, Handled.afterAll_afterAll]
      rfl

/-- Enough steps do all of it. -/
theorem runStages_answered {n : Nat} (w : World lim κ υ δ) {stage : Stage}
    (h : g.stepsLeft stage ≤ n) :
    ∃ reply, (g.runStages L id n w stage).stage = .answered reply := by
  induction n generalizing w stage with
  | zero =>
      cases stage with
      | answered reply => exact ⟨reply, rfl⟩
      | matching req => exact absurd h (Nat.not_succ_le_zero _)
      | checking route req => exact absurd h (Nat.not_succ_le_zero _)
      | limiting route metrics req => exact absurd h (Nat.not_succ_le_zero _)
      | lookingUp route metrics req => exact absurd h (Nat.not_succ_le_zero _)
      | sending s => exact absurd h (Nat.not_succ_le_zero _)
  | succ n ih =>
      rw [runStages]
      by_cases hopen : ∀ reply, stage ≠ .answered reply
      · have hless := advance_stepsLeft (L := L) (g := g) id w hopen
        exact ih _ (by omega)
      · obtain ⟨reply, hreply⟩ := not_forall.mp hopen
        rw [not_not.mp hreply]
        exact ih _ (Nat.zero_le n)

/-- **A request that is left alone** is handled as `handle_request` in one piece says. -/
theorem runStages_handleRequest (req : Request) (client : SocketAddr) (w : World lim κ υ δ)
    {n : Nat} (hn : g.maxAttempts + 5 ≤ n) :
    ∃ logs, g.runStages L id n w (.matching (g.stampRequestId id req)) =
      ⟨.answered (g.handleRequest L req client id w).reply,
        (g.handleRequest L req client id w).world, (g.handleRequest L req client id w).events,
        logs⟩ := by
  obtain ⟨reply, hreply⟩ := runStages_answered (L := L) id w
    (show g.stepsLeft (.matching (g.stampRequestId id req)) ≤ n from hn)
  have hfinish : g.handleRequest L req client id w =
      g.resumed L (g.runStages L id n w (.matching (g.stampRequestId id req))) := by
    rw [← finish_runStages]
    rfl
  rcases hrun : g.runStages L id n w (.matching (g.stampRequestId id req)) with
    ⟨stage, w', events, logs⟩
  rw [hrun] at hreply hfinish
  subst hreply
  rw [hfinish]
  exact ⟨logs, by simp only [resumed, finish, Handled.afterAll, List.append_nil]⟩

end Gateway

end MiniGateway
