import MiniGateway.Properties.Stages

/-!
# Properties — Interleaving

Requests that are handled side by side, against requests that are handled one at a time.

What a request sees of the others are the answers of the limiter, of the cache, of the upstream and
of the discovery.  A `Script` is a list of such answers, and `Gateway.scripted` the gateway that is
told them; it differs from the gateway in nothing else.  In every interleaving a request does and
answers what `handleRequest` does and answers with a script (`interleaved_serial`): whatever is
proved of one request, for every gateway and every world, holds of each of the requests that run
side by side.
-/

namespace MiniGateway

open Http RateLimit Tasks

/-! ### Scripts -/

/-- The answers a request is told, in order, and the time. -/
abbrev Script :=
  World (List Bool) (List (Except GatewayError (Option CachedResponse)))
    (List (Except SendError UpstreamResponse)) (List (Except GatewayError Text))

namespace Script

/-- The next answer. -/
def next {α : Type} (otherwise : α) : List α → α × List α
  | [] => (otherwise, [])
  | a :: answers => (a, answers)

/-- No answers. -/
def empty (now : Nat) : Script := ⟨now, [], [], [], [], []⟩

/-- The answers of `past`, and then those of `future`; time and increments are those of `future`. -/
def before (past future : Script) : Script :=
  { future with
    limiter := past.limiter ++ future.limiter
    cache := past.cache ++ future.cache
    upstream := past.upstream ++ future.upstream
    discovery := past.discovery ++ future.discovery }

theorem before_assoc (a b c : Script) : (a.before b).before c = a.before (b.before c) := by
  simp only [before, List.append_assoc]

/-- The same answers, at another time. -/
def atTime (script : Script) (now : Nat) : Script := { script with now := now }

/-- The script after more increments. -/
def counting (script : Script) (samples : List Sample) : Script :=
  { script with increments := script.increments ++ samples }

theorem counting_nil (script : Script) : script.counting [] = script := by
  simp only [counting, List.append_nil]

theorem before_counting (past future : Script) (samples : List Sample) :
    (past.before future).counting samples = past.before (future.counting samples) := rfl

theorem counting_counting (script : Script) (a b : List Sample) :
    (script.counting a).counting b = script.counting (a ++ b) := by
  simp only [counting, List.append_assoc]

def limiter : KeyedLimiter (List Bool) := ⟨[], fun answers _ _ => next true answers⟩

def backend : CacheBackendTrait (List (Except GatewayError (Option CachedResponse))) where
  get answers _ := next (.ok none) answers
  set answers _ _ _ := (.ok (), answers)
  delete answers _ := (.ok (), answers)
  clear answers := (.ok (), answers)

/-- It takes the URLs that `C` takes. -/
def client {υ : Type} (C : Client υ) : Client (List (Except SendError UpstreamResponse)) where
  isUrl := C.isUrl
  send answers _ := next (.error ⟨.other, []⟩) answers

def discovery : ServiceDiscovery (List (Except GatewayError Text)) where
  resolve answers _ := next (.error .upstreamUnavailable) answers
  healthCheck answers _ := (.ok [], answers)
  watch answers _ := (.ok (), answers)

end Script

variable {ρ lim κ υ δ : Type}

/-- The libraries, but for the answers. -/
def Libraries.scripted (L : Libraries ρ lim κ υ δ) : Libraries ρ (List Bool)
    (List (Except GatewayError (Option CachedResponse)))
    (List (Except SendError UpstreamResponse)) (List (Except GatewayError Text)) where
  regex := L.regex
  tokens := L.tokens
  keyed _ := Script.limiter
  memory _ := Script.backend
  redis url := (L.redis url).map fun _ => Script.backend
  consul config := (L.consul config).map fun _ => Script.discovery
  etcd config := (L.etcd config).map fun _ => Script.discovery
  tlsAcceptor := L.tlsAcceptor
  client maxIdle idleTimeoutSecs := Script.client (L.client maxIdle idleTimeoutSecs)

/-- The gateway, but for the answers. -/
def Gateway.scripted (g : Gateway ρ lim κ υ δ) : Gateway ρ (List Bool)
    (List (Except GatewayError (Option CachedResponse)))
    (List (Except SendError UpstreamResponse)) (List (Except GatewayError Text)) where
  config := g.config
  router := ⟨g.router.routes, g.router.discovery.map fun _ => Script.discovery⟩
  proxyClient := ⟨Script.client g.proxyClient.client⟩
  authLayer := g.authLayer
  rateLimitLayer := g.rateLimitLayer.map fun rl => ⟨Script.limiter, rl.keyStrategy⟩
  corsLayer := g.corsLayer
  cacheLayer := g.cacheLayer.map fun c => ⟨Script.backend, c.config⟩

/-- At the beginning, up to the check of the token. -/
def Stage.early : Stage → Bool
  | .matching _ => true
  | .checking .. => true
  | _ => false

namespace Gateway

variable {L : Libraries ρ lim κ υ δ} {g : Gateway ρ lim κ υ δ}

/-! ### The scripted gateway is a gateway -/

theorem discoveryOf_scripted (config : GatewayConfig) : discoveryOf L.scripted config =
    (discoveryOf L config).map (Option.map fun _ => Script.discovery) := by
  rw [discoveryOf, discoveryOf]
  cases config.discovery with
  | none => rfl
  | some disc =>
      simp only
      split
      · cases disc.provider with
        | consul address datacenter =>
            simp only [Libraries.scripted]
            cases L.consul disc <;> rfl
        | etcd endpoints =>
            simp only [Libraries.scripted]
            cases L.etcd disc <;> rfl
      · rfl

theorem cacheLayerOf_scripted (config : GatewayConfig) : cacheLayerOf L.scripted config =
    (cacheLayerOf L config).map (Option.map fun c => ⟨Script.backend, c.config⟩) := by
  rw [cacheLayerOf, cacheLayerOf]
  cases config.cache with
  | none => rfl
  | some cache =>
      simp only
      split
      · rw [CacheLayer.new, CacheLayer.new]
        cases cache.backend with
        | memory => rfl
        | redis url =>
            simp only [Libraries.scripted]
            cases L.redis url <;> rfl
      · rfl

theorem rateLimitLayerOf_scripted (config : GatewayConfig) : rateLimitLayerOf L.scripted config =
    (rateLimitLayerOf L config).map fun rl => ⟨Script.limiter, rl.keyStrategy⟩ := by
  rw [rateLimitLayerOf, rateLimitLayerOf]
  cases config.rateLimit with
  | none => rfl
  | some rl =>
      simp only
      split <;> rfl

theorem proxyClientOf_scripted (config : GatewayConfig) : proxyClientOf L.scripted config =
    ⟨Script.client (proxyClientOf L config).client⟩ := by
  rw [proxyClientOf, proxyClientOf]
  cases config.pool with
  | none => rfl
  | some pool =>
      simp only
      split <;> rfl

theorem watchServices_scripted (routes : List RouteConfig)
    (answers : List (Except GatewayError Text)) :
    watchServices Script.discovery routes answers = answers := by
  rw [watchServices]
  induction routes with
  | nil => rfl
  | cons route routes ih =>
      rw [List.foldl_cons]
      cases route.upstream with
      | static url => exact ih
      | service name discovery => exact ih
      | loadBalance endpoints strategy => exact ih

/-- **A configuration that gives a gateway gives its scripted one**, with the scripted libraries. -/
theorem new_scripted {config : GatewayConfig} {d d' : δ} (h : new L config d = .ok (g, d'))
    (answers : List (Except GatewayError Text)) :
    new L.scripted config answers = .ok (g.scripted, answers) := by
  rw [new] at h
  obtain ⟨router, hrouter, h⟩ := ok_of_bind h
  obtain ⟨discovery, hdiscovery, h⟩ := ok_of_bind h
  obtain ⟨u, htls, h⟩ := ok_of_bind h
  obtain ⟨authLayer, hauth, h⟩ := ok_of_bind h
  obtain ⟨cacheLayer, hcache, h⟩ := ok_of_bind h
  cases h
  have hrouter' : Router.new L.scripted.regex config.routes =
      .ok (⟨router.routes, none⟩ : Router ρ (List (Except GatewayError Text))) := by
    rw [Router.new] at hrouter ⊢
    simp only [Libraries.scripted]
    cases hc : Router.compile L.regex config.routes with
    | error e => rw [hc] at hrouter; cases hrouter
    | ok entries => rw [hc] at hrouter; cases hrouter; rfl
  have hnone : router.discovery = none := by
    rw [Router.new] at hrouter
    split at hrouter
    · cases hrouter
    · cases hrouter
      rfl
  have htls' : checkTls L.scripted config = checkTls L config := rfl
  rw [new, hrouter', discoveryOf_scripted, hdiscovery, htls', htls, hauth, cacheLayerOf_scripted,
    hcache, rateLimitLayerOf_scripted, proxyClientOf_scripted]
  cases discovery with
  | none =>
      simp only [Except.map, Option.map_none, Option.elim_none, bind, Except.bind, scripted, hnone]
  | some disc =>
      simp only [Except.map, Option.map_some, Option.elim_some, bind, Except.bind, scripted,
        Router.withDiscovery, watchServices_scripted]

/-! ### One step -/

/-- **The answers `past` lead a scripted request as far as the step did**, whatever answers
follow; the time matters where the token is checked. -/
def Follows (L : Libraries ρ lim κ υ δ) (g : Gateway ρ lim κ υ δ) (id : Text) (past : Script)
    (stage : Stage) (now : Nat) (p : Progress lim κ υ δ) : Prop :=
  ∀ future : Script, (stage.early = true → p.stage.early = false → future.now = now) →
    ∃ samples, g.scripted.advance L.scripted id (past.before future) stage =
      ⟨p.stage, future.counting samples, p.events, p.logs⟩

/-- What the answers of the upstream are made of is the same. -/
theorem receive_scripted (id : Text) (metrics : RequestMetrics) (w : World lim κ υ δ)
    (events : List Event) (resp : UpstreamResponse) (script : Script) :
    ∃ samples, g.scripted.receive id metrics script events resp =
      ⟨(g.receive id metrics w events resp).stage, script.counting samples,
        (g.receive id metrics w events resp).events,
        (g.receive id metrics w events resp).logs⟩ := by
  rw [receive, receive]
  cases resp.body with
  | error e =>
      refine ⟨[], ?_⟩
      rw [Script.counting_nil]
      rfl
  | ok bytes =>
      simp only
      cases ProxyClient.response resp bytes with
      | error e => exact ⟨metrics.recordSuccess resp.status.code, rfl⟩
      | ok r => exact ⟨metrics.recordSuccess resp.status.code, rfl⟩

/-- So is the request that is sent. -/
theorem prepare_scripted (id : Text) (route : RouteMatch) (metrics : RequestMetrics)
    (req : Request) (w : World lim κ υ δ) (events : List Event) (script : Script) :
    g.scripted.prepare id route metrics req script events =
      ⟨(g.prepare id route metrics req w events).stage, script,
        (g.prepare id route metrics req w events).events,
        (g.prepare id route metrics req w events).logs⟩ := by
  rw [prepare, prepare]
  cases Method.parse req.method.text with
  | none => rfl
  | some method =>
      cases req.body with
      | error e => rfl
      | ok body => rfl

theorem answer_scripted (d : δ) (entry : RouteEntry ρ) : ∃ answers, ∀ rest,
    g.scripted.router.answer (answers ++ rest) entry = ((g.router.answer d entry).1, rest) := by
  -- only the upstream of a service is asked for
  have hplain : ∀ url, g.router.resolveUpstream d entry.config.upstream = (url, d) →
      (∀ rest, g.scripted.router.resolveUpstream rest entry.config.upstream = (url, rest)) →
      ∃ answers, ∀ rest, g.scripted.router.answer (answers ++ rest) entry =
        ((g.router.answer d entry).1, rest) := by
    intro url hurl hscripted
    refine ⟨[], fun rest => ?_⟩
    rw [List.nil_append, Router.answer, Router.answer, hurl, hscripted rest]
    cases url <;> rfl
  cases hup : entry.config.upstream with
  | static url => exact hplain (.ok url) (by rw [hup]; rfl) fun rest => by rw [hup]; rfl
  | loadBalance endpoints strategy =>
      cases endpoints with
      | nil => exact hplain _ (by rw [hup]; rfl) fun rest => by rw [hup]; rfl
      | cons endpoint endpoints =>
          exact hplain (.ok endpoint) (by rw [hup]; rfl) fun rest => by rw [hup]; rfl
  | service name discovery =>
      cases hdisc : g.router.discovery with
      | none =>
          refine hplain _ (by rw [hup, Router.resolveUpstream, hdisc]) fun rest => ?_
          rw [hup, Router.resolveUpstream]
          simp only [scripted, hdisc, Option.map_none]
      | some disc =>
          refine ⟨[(disc.resolve d name).1], fun rest => ?_⟩
          rw [Router.answer, Router.answer, hup, Router.resolveUpstream, Router.resolveUpstream]
          simp only [scripted, hdisc, Option.map_some, Script.discovery, Script.next,
            List.singleton_append]
          rcases disc.resolve d name with ⟨_ | url, d'⟩ <;> rfl

/-- The routes are the same; the upstream is told. -/
theorem matchRoute_scripted (req : Request) (d : δ) : ∃ answers, ∀ rest,
    g.scripted.router.matchRoute L.scripted.regex req (answers ++ rest) =
      ((g.router.matchRoute L.regex req d).1, rest) := by
  have hfind : ∀ rest, g.scripted.router.matchRoute L.scripted.regex req rest =
      (g.router.routes.find? (Router.entryAccepts L.regex req)).elim (none, rest)
        (g.scripted.router.answer rest) := fun rest => Router.matchRoute_eq_find _ req rest
  rw [Router.matchRoute_eq_find]
  cases hentry : g.router.routes.find? (Router.entryAccepts L.regex req) with
  | none => exact ⟨[], fun rest => by rw [hfind, hentry]; rfl⟩
  | some entry =>
      obtain ⟨answers, h⟩ := answer_scripted (g := g) d entry
      exact ⟨answers, fun rest => by rw [hfind, hentry]; exact h rest⟩

theorem attempt_scripted (id : Text) (s : Sending) (w : World lim κ υ δ) :
    ∃ past, Follows L g id past (.sending s) w.now (g.attempt id s w) := by
  obtain ⟨metrics, request, maxAttempts, backoff, left, attempt⟩ := s
  cases left with
  | zero => exact ⟨.empty w.now, fun future _ => ⟨[], by rw [Script.counting_nil]; rfl⟩⟩
  | succ left =>
      cases request with
      | none => exact ⟨.empty w.now, fun future _ => ⟨[], by rw [Script.counting_nil]; rfl⟩⟩
      | some request =>
          refine ⟨{ Script.empty w.now with
            upstream := [(g.proxyClient.client.send w.upstream request).1] }, fun future _ => ?_⟩
          -- the send is answered by the script, and the rest of the turn is the same
          have hsend : g.scripted.proxyClient.client.send
              ((g.proxyClient.client.send w.upstream request).1 :: future.upstream) request =
              ((g.proxyClient.client.send w.upstream request).1, future.upstream) := rfl
          rw [advance, Gateway.attempt, Gateway.attempt]
          simp only [Script.before, Script.empty, List.nil_append, List.singleton_append, hsend]
          rcases g.proxyClient.client.send w.upstream request with ⟨_ | resp, u⟩
          · simp only
            split
            · exact ⟨[], by rw [Script.counting_nil]⟩
            · exact ⟨[], by rw [Script.counting_nil]; rfl⟩
          · simp only
            split
            · exact ⟨[], by rw [Script.counting_nil]⟩
            · exact receive_scripted id metrics { w with upstream := u } _ resp future

theorem match_scripted (id : Text) (req : Request) (w : World lim κ υ δ) :
    ∃ past, Follows L g id past (.matching req) w.now (g.advance L id w (.matching req)) := by
  obtain ⟨answers, h⟩ := matchRoute_scripted (L := L) (g := g) req w.discovery
  refine ⟨{ Script.empty w.now with discovery := answers }, fun future _ => ⟨[], ?_⟩⟩
  rw [advance, advance]
  simp only [Script.before, Script.empty, List.nil_append, h]
  rcases g.router.matchRoute L.regex req w.discovery with ⟨_ | route, d⟩
  · rw [Script.counting_nil]
  · rw [Script.counting_nil]

/-- The one step in which the time matters. -/
theorem check_scripted (id : Text) (route : RouteMatch) (req : Request) (w : World lim κ υ δ) :
    ∃ past, Follows L g id past (.checking route req) w.now
      (g.advance L id w (.checking route req)) := by
  refine ⟨.empty w.now, fun future hnow => ?_⟩
  have hpre : g.scripted.preflight req = g.preflight req := rfl
  have hauth : ∀ now, g.scripted.authenticate L.scripted.tokens now req =
      g.authenticate L.tokens now req := fun _ => rfl
  rw [advance] at hnow
  rw [advance, advance, hpre]
  cases hp : g.preflight req with
  | some reply => exact ⟨[], by rw [Script.counting_nil]; rfl⟩
  | none =>
      rw [hp] at hnow
      have htime : future.now = w.now := hnow rfl (by
        simp only
        cases g.authenticate L.tokens (w.now / nanos) req <;> rfl)
      have hbefore : ((Script.empty w.now).before future).now = w.now := htime
      simp only [hauth, hbefore]
      cases g.authenticate L.tokens (w.now / nanos) req with
      | error message => exact ⟨[_], rfl⟩
      | ok req' => exact ⟨[], by rw [Script.counting_nil]; rfl⟩

theorem limit_scripted (id : Text) (route : RouteMatch) (metrics : RequestMetrics) (req : Request)
    (w : World lim κ υ δ) : ∃ past, Follows L g id past (.limiting route metrics req) w.now
      (g.advance L id w (.limiting route metrics req)) := by
  cases hr : g.rateLimitLayer with
  | none =>
      refine ⟨.empty w.now, fun future _ => ⟨[], ?_⟩⟩
      have hr' : g.scripted.rateLimitLayer = none := by
        simp only [scripted, hr, Option.map_none]
      rw [advance, advance, hr, hr', Script.counting_nil]
      rfl
  | some rl =>
      refine ⟨{ Script.empty w.now with limiter := [(rl.limiter.checkKey w.limiter
        (RateLimitLayer.requestKey rl.keyStrategy req) w.now).1] }, fun future _ => ?_⟩
      have hr' : g.scripted.rateLimitLayer = some ⟨Script.limiter, rl.keyStrategy⟩ := by
        simp only [scripted, hr, Option.map_some]
      rw [advance, advance, hr, hr']
      simp only [Script.before, Script.empty, Script.limiter, Script.next, List.nil_append,
        List.singleton_append]
      rcases rl.limiter.checkKey w.limiter (RateLimitLayer.requestKey rl.keyStrategy req)
        w.now with ⟨_ | _, l⟩
      · exact ⟨[metrics.recordRateLimited], rfl⟩
      · exact ⟨[], by rw [Script.counting_nil]⟩

/-- Where nothing is looked up, there is nothing to tell. -/
theorem skip_scripted {id : Text} {route : RouteMatch} {metrics : RequestMetrics} {req : Request}
    {w : World lim κ υ δ}
    (h : g.advance L id w (.lookingUp route metrics req) = g.prepare id route metrics req w [])
    (hscripted : ∀ script, g.scripted.advance L.scripted id script (.lookingUp route metrics req) =
      g.scripted.prepare id route metrics req script []) :
    ∃ past, Follows L g id past (.lookingUp route metrics req) w.now
      (g.advance L id w (.lookingUp route metrics req)) := by
  refine ⟨.empty w.now, fun future _ => ⟨[], ?_⟩⟩
  rw [h, hscripted, prepare_scripted id route metrics req w [], Script.counting_nil]
  rfl

theorem lookUp_scripted (id : Text) (route : RouteMatch) (metrics : RequestMetrics) (req : Request)
    (w : World lim κ υ δ) : ∃ past, Follows L g id past (.lookingUp route metrics req) w.now
      (g.advance L id w (.lookingUp route metrics req)) := by
  cases hc : g.cacheLayer with
  | none =>
      refine skip_scripted (by rw [advance, hc]) fun script => ?_
      rw [advance]
      simp only [scripted, hc, Option.map_none]
  | some cache =>
      have hc' : g.scripted.cacheLayer = some ⟨Script.backend, cache.config⟩ := by
        simp only [scripted, hc, Option.map_some]
      by_cases hlook : (route.cacheEnabled && decide (req.method = .get)) = true
      · refine ⟨{ Script.empty w.now with
          cache := [(cache.backend.get w.cache (cache.buildKey req)).1] }, fun future _ => ?_⟩
        rw [advance, advance, hc, hc']
        simp only [hlook, if_true, Script.before, Script.empty, Script.backend, Script.next,
          List.nil_append, List.singleton_append]
        rcases cache.backend.get w.cache (cache.buildKey req) with ⟨_ | _ | cached, k⟩
        · exact ⟨[], by
            rw [Script.counting_nil]; exact prepare_scripted id route metrics req _ _ future⟩
        · exact ⟨[], by
            rw [Script.counting_nil]; exact prepare_scripted id route metrics req _ _ future⟩
        · exact ⟨[metrics.recordCacheHit], rfl⟩
      · refine skip_scripted ?_ fun script => ?_
        · rw [advance, hc]
          simp only [hlook, Bool.false_eq_true, if_false]
        · rw [advance, hc']
          simp only [hlook, Bool.false_eq_true, if_false]

/-- **A step, with a script.** -/
theorem advance_scripted (id : Text) (w : World lim κ υ δ) (stage : Stage) :
    ∃ past, Follows L g id past stage w.now (g.advance L id w stage) := by
  cases stage with
  | matching req => exact match_scripted id req w
  | checking route req => exact check_scripted id route req w
  | limiting route metrics req => exact limit_scripted id route metrics req w
  | lookingUp route metrics req => exact lookUp_scripted id route metrics req w
  | sending s => exact attempt_scripted id s w
  | answered reply =>
      exact ⟨.empty w.now, fun future _ => ⟨[], by rw [Script.counting_nil]; rfl⟩⟩

/-! ### Runs of steps -/

/-- Some steps, and then some more. -/
theorem runStages_add (id : Text) (n m : Nat) (w : World lim κ υ δ) (stage : Stage) :
    g.runStages L id (n + m) w stage =
      let q := g.runStages L id n w stage
      let p := g.runStages L id m q.world q.stage
      ⟨p.stage, p.world, q.events ++ p.events, q.logs ++ p.logs⟩ := by
  induction n generalizing w stage with
  | zero => rw [Nat.zero_add]; rfl
  | succ n ih =>
      rw [Nat.succ_add, runStages, runStages]
      simp only [ih, List.append_assoc]

theorem runStages_one (id : Text) (w : World lim κ υ δ) (stage : Stage) :
    g.runStages L id 1 w stage = g.advance L id w stage := by
  simp only [runStages, List.append_nil]

/-- An answer is the end. -/
theorem runStages_of_answered (id : Text) (n : Nat) (w : World lim κ υ δ)
    (reply : Except Panic Response) :
    g.runStages L id n w (.answered reply) = ⟨.answered reply, w, [], []⟩ := by
  induction n with
  | zero => rfl
  | succ n ih =>
      rw [runStages, advance]
      simp only [ih, List.append_nil]

/-- A step takes no time, and there is no way back behind the check of the token. -/
theorem advance_late (id : Text) (w : World lim κ υ δ) (stage : Stage) :
    (stage.early = false → (g.advance L id w stage).stage.early = false) ∧
      (g.advance L id w stage).world.now = w.now := by
  have h := advance_advances (L := L) (g := g) id w stage
  generalize g.advance L id w stage = p at h ⊢
  cases h with
  | matched => exact ⟨fun h => (by cases h), rfl⟩
  | _ => exact ⟨fun _ => rfl, rfl⟩

/-- **The answers a request was told so far**: with them, a scripted request is where it is. -/
def Explains (L : Libraries ρ lim κ υ δ) (g : Gateway ρ lim κ υ δ) (past : Script)
    (h : Handling) : Prop :=
  ∀ future : Script, (h.stage.early = false → future.now = past.now) → ∃ samples,
    g.scripted.runStages L.scripted h.requestId h.steps (past.before future)
        (.matching (g.stampRequestId h.requestId h.request)) =
      ⟨h.stage, future.counting samples, h.events, h.logs⟩

/-- One more step, one more answer. -/
theorem Explains.advance {past : Script} {h : Handling} (hpast : Explains L g past h)
    (w : World lim κ υ δ) {p : Progress lim κ υ δ} (hp : g.advance L h.requestId w h.stage = p) :
    ∃ past', Explains L g past' { h with
        steps := h.steps + 1, events := h.events ++ p.events, logs := h.logs ++ p.logs,
        stage := p.stage } ∧
      (past'.now = past.now ∨ past'.now = w.now) := by
  subst hp
  obtain ⟨told, htold⟩ := advance_scripted (L := L) (g := g) h.requestId w h.stage
  have hlate := (advance_late (L := L) (g := g) h.requestId w h.stage).1
  generalize g.advance L h.requestId w h.stage = p at htold hlate ⊢
  -- the time is settled by the step that checks the token
  refine ⟨(past.before told).atTime (if h.stage.early then w.now else past.now),
    fun future hnow => ?_, ?_⟩
  · obtain ⟨samples, hrun⟩ := hpast (told.before future) fun hearly => by
      have htime := hnow (hlate hearly)
      rw [hearly] at htime
      exact htime
    obtain ⟨samples', hstep⟩ := htold (future.counting samples) fun hearly hnot => by
      have htime := hnow hnot
      rw [hearly] at htime
      exact htime
    have hscript : ∀ t, ((past.before told).atTime t).before future =
        past.before (told.before future) := fun _ => Script.before_assoc past told future
    refine ⟨samples ++ samples', ?_⟩
    simp only
    rw [hscript, runStages_add]
    simp only [hrun, runStages_one, Script.before_counting, hstep, Script.counting_counting]
  · simp only [Script.atTime]
    split
    · exact Or.inr rfl
    · exact Or.inl rfl

/-! ### In every interleaving -/

/-- **The invariant of a task**: its request was told answers that explain it, at a time between
its arrival and now, and it has not taken more steps than there are. -/
def Explained (L : Libraries ρ lim κ υ δ) (g : Gateway ρ lim κ υ δ) (s : Server lim κ υ δ) :
    Conn → Prop
  | .busy h =>
      (∃ past, Explains L g past h ∧ h.arrived ≤ past.now ∧ past.now ≤ s.world.now) ∧
        h.steps + g.stepsLeft h.stage ≤ g.maxAttempts + 5
  | .handshaking => True
  | .idle => True

/-- Time passing does no harm. -/
theorem Explained.mono {s s' : Server lim κ υ δ} (hnow : s.world.now ≤ s'.world.now) {c : Conn}
    (h : Explained L g s c) : Explained L g s' c := by
  cases c with
  | handshaking => trivial
  | idle => trivial
  | busy h' =>
      obtain ⟨⟨past, hpast, harrived, hle⟩, hsteps⟩ := h
      exact ⟨⟨past, hpast, harrived, Nat.le_trans hle hnow⟩, hsteps⟩

theorem explained_request (s : Server lim κ υ δ) (req : Request) (id : Text) :
    Explained L g s (.busy ⟨req, id, s.world.now, 0, [], [],
      .matching (g.stampRequestId id req)⟩) := by
  refine ⟨⟨.empty s.world.now, fun future _ => ⟨[], ?_⟩, Nat.le_refl _, Nat.le_refl _⟩, ?_⟩
  · simp only [runStages, Script.counting, Script.before, Script.empty, List.nil_append,
      List.append_nil]
  · exact Nat.le_of_eq (Nat.zero_add _)

theorem explained_advance {s : Server lim κ υ δ} {h : Handling} {p : Progress lim κ υ δ}
    (hs : Explained L g s (.busy h)) (hopen : ∀ reply, h.stage ≠ .answered reply)
    (hp : g.advance L h.requestId s.world h.stage = p) :
    Explained L g (s.after p) (.busy { h with
      steps := h.steps + 1, events := h.events ++ p.events, logs := h.logs ++ p.logs,
      stage := p.stage }) := by
  obtain ⟨⟨past, hpast, harrived, hle⟩, hsteps⟩ := hs
  have hless := advance_stepsLeft (L := L) (g := g) h.requestId s.world hopen
  have hnow := (advance_late (L := L) (g := g) h.requestId s.world h.stage).2
  obtain ⟨past', hpast', htime⟩ := hpast.advance s.world hp
  rw [hp] at hless hnow
  have hworld : (s.after p).world.now = s.world.now := hnow
  refine ⟨⟨past', hpast', ?_, ?_⟩, ?_⟩
  · rcases htime with h | h <;> rw [h]
    · exact harrived
    · exact Nat.le_trans harrived hle
  · rw [hworld]
    rcases htime with h | h <;> rw [h]
    exact hle
  · simp only
    omega

/-- A move takes no time. -/
theorem moves_now {s s' : Server lim κ υ δ} {c : Conn} {c' : Option Conn}
    (h : Server.Moves L g s c s' c') : s'.world.now = s.world.now := by
  cases h with
  | secured => rfl
  | refused => rfl
  | request req id => rfl
  | @advance h p hopen hp =>
      subst hp
      exact (advance_late (L := L) (g := g) h.requestId s.world h.stage).2
  | reply hr => rfl
  | panic he => rfl
  | closed => rfl
  | dropped hno => rfl

theorem explained_moves {s s' : Server lim κ υ δ} {c c' : Conn}
    (h : Server.Moves L g s c s' (some c')) (hc : Explained L g s c) : Explained L g s' c' := by
  cases h with
  | secured => trivial
  | request req id => exact explained_request s req id
  | advance hopen hp => exact explained_advance hc hopen hp
  | reply hr => trivial

theorem explained_keeps (tls : Bool) :
    Keeps (Server.system L g tls) (fun _ => True) (Explained L g) where
  moves {s t s' t'} _ ht hmove := by
    have hnow : s'.world.now = s.world.now := moves_now hmove
    refine ⟨trivial, fun u hu => ?_, fun u hu => hu.mono (Nat.le_of_eq hnow.symm)⟩
    subst hu
    exact explained_moves hmove ht
  starts {s s' t} _ hstart := by
    cases hstart with
    | accept h =>
        refine ⟨trivial, ?_, fun u hu => hu.mono (Nat.le_refl _)⟩
        cases tls <;> trivial
  changes {s s'} _ hchange := by
    cases hchange with
    | world now k u d h => exact ⟨trivial, fun c hc => hc.mono h⟩
    | failed => exact ⟨trivial, fun c hc => hc.mono (Nat.le_refl _)⟩

/-! ### A request that is left alone -/

/-- **From any point on, a request can be left alone** until it is answered; it is then handled as
in one piece from there. -/
theorem alone {w : World lim κ υ δ} {tls : Bool} {pool : Pool (Server lim κ υ δ) Conn}
    (hr : Reachable (Server.system L g tls) (.init w) pool) (before after : List Conn)
    {h : Handling} (hh : pool.tasks = before ++ .busy h :: after) :
    ∃ s' h', Reachable (Server.system L g tls) (.init w) ⟨s', before ++ .busy h' :: after⟩ ∧
      h'.request = h.request ∧ h'.requestId = h.requestId ∧ h'.arrived = h.arrived ∧
      h'.stage = .answered (g.finish L pool.shared.world h.stage).reply ∧
      h'.events = h.events ++ (g.finish L pool.shared.world h.stage).events ∧
      s'.world = (g.finish L pool.shared.world h.stage).world ∧
      s'.trace = pool.shared.trace ++
        (g.finish L pool.shared.world h.stage).events.map (pool.shared.world.now, ·) := by
  obtain ⟨s, tasks⟩ := pool
  subst hh
  -- along the steps that are left
  induction hn : g.stepsLeft h.stage using Nat.strongRecOn generalizing s h with
  | _ n ih =>
      by_cases hopen : ∀ reply, h.stage ≠ .answered reply
      · have hless := advance_stepsLeft (L := L) (g := g) h.requestId s.world hopen
        have hnow := (advance_late (L := L) (g := g) h.requestId s.world h.stage).2
        have hfinish := finish_advance (L := L) (g := g) h.requestId s.world h.stage
        obtain ⟨p, hp⟩ : ∃ p, g.advance L h.requestId s.world h.stage = p := ⟨_, rfl⟩
        have hstep := hr.tail (Step.move before after (Server.Moves.advance hopen hp))
        rw [hp] at hless hnow hfinish
        obtain ⟨s', h', hr', hreq, hid, harr, hstage, hevents, hworld, htrace⟩ :=
          ih _ (hn ▸ hless) (s.after p) hstep rfl
        refine ⟨s', h', hr', hreq, hid, harr, ?_⟩
        rw [hfinish]
        refine ⟨hstage, ?_, hworld, ?_⟩
        · rw [hevents]
          exact List.append_assoc _ _ _
        · rw [htrace]
          simp only [Server.after, resumed, Handled.afterAll, List.map_append, List.append_assoc,
            hnow]
      · have hdone : ∃ reply, h.stage = .answered reply := by
          by_contra hno
          exact hopen fun reply hreply => hno ⟨reply, hreply⟩
        obtain ⟨reply, hreply⟩ := hdone
        refine ⟨s, h, hr, rfl, rfl, rfl, ?_⟩
        rw [hreply]
        exact ⟨rfl, (List.append_nil _).symm, rfl, (List.append_nil _).symm⟩

/-- The request came in so, and was handled so. -/
structure HandledAs (h : Handling) (req : Request) (id : Text) (arrived : Nat)
    (reply : Except Panic Response) (events : List Event) : Prop where
  request : h.request = req
  requestId : h.requestId = id
  arrived : h.arrived = arrived
  stage : h.stage = .answered reply
  events : h.events = events

/-- **Two connections whose requests overlap**: the first request has got past the router when the
second one comes in, and is finished after that. -/
theorem overlapping (L : Libraries ρ lim κ υ δ) (g : Gateway ρ lim κ υ δ) (req₁ req₂ : Request)
    (client : SocketAddr) (id₁ id₂ : Text) (w : World lim κ υ δ) {route : RouteMatch}
    (hroute : ∀ d, g.router.matchRoute L.regex req₁ d = (some route, d)) :
    ∃ s h₁ h₂, Reachable (Server.system L g false) (.init w) ⟨s, [.busy h₂, .busy h₁]⟩ ∧
      HandledAs h₂ req₂ id₂ w.now (g.handleRequest L req₂ client id₂ w).reply
        (g.handleRequest L req₂ client id₂ w).events ∧
      HandledAs h₁ req₁ id₁ w.now
        (g.handleRequest L req₁ client id₁ (g.handleRequest L req₂ client id₂ w).world).reply
        (g.handleRequest L req₁ client id₁ (g.handleRequest L req₂ client id₂ w).world).events ∧
      s.world = (g.handleRequest L req₁ client id₁
        (g.handleRequest L req₂ client id₂ w).world).world ∧
      s.trace = (g.handleRequest L req₂ client id₂ w).events.map (w.now, ·) ++
        (g.handleRequest L req₁ client id₁ (g.handleRequest L req₂ client id₂ w).world).events.map
          ((g.handleRequest L req₂ client id₂ w).world.now, ·) := by
  obtain ⟨s, rfl, htrace, haccept⟩ : ∃ s : Server lim κ υ δ, s.world = w ∧ s.trace = [] ∧
      Reachable (Server.system L g false) (.init w) ⟨s, [Conn.idle, Conn.idle]⟩ :=
    ⟨_, rfl, rfl, (Relation.ReflTransGen.single (.start [] (Server.Accepts.accept rfl))).tail
      (.start [Conn.idle] (Server.Accepts.accept rfl))⟩
  have hbegun := haccept.tail (Step.move (S := Server.system L g false) [Conn.idle] []
    (Server.Moves.request req₁ id₁))
  -- the first request is matched, and goes no further yet
  have hmatched : g.advance L id₁ s.world (.matching (g.stampRequestId id₁ req₁)) =
      ⟨.checking route (g.stampRequestId id₁ req₁), s.world, [], []⟩ := by
    rw [advance, matchRoute_stamp, hroute]
  have hfirst := hbegun.tail (Step.move (S := Server.system L g false) [Conn.idle] []
    (Server.Moves.advance (fun reply h => by cases h) hmatched))
  have hafter : s.after (⟨.checking route (g.stampRequestId id₁ req₁), s.world, [], []⟩ :
      Progress lim κ υ δ) = s := by
    simp only [Server.after, List.map_nil, List.append_nil]
  rw [hafter] at hfirst
  have hsecond := hfirst.tail (Step.move (S := Server.system L g false) [] _
    (Server.Moves.request req₂ id₂))
  obtain ⟨s₂, h₂, hr₂, hreq₂, hid₂, harr₂, hstage₂, hevents₂, hworld₂, htrace₂⟩ :=
    alone hsecond [] _ rfl
  obtain ⟨s₁, h₁, hr₁, hreq₁, hid₁, harr₁, hstage₁, hevents₁, hworld₁, htrace₁⟩ :=
    alone hr₂ [.busy h₂] [] rfl
  -- what was left of the first request is the whole of it, in the world the second one leaves
  have hfinish : g.finish L s₂.world (.checking route (g.stampRequestId id₁ req₁)) =
      g.handleRequest L req₁ client id₁ (g.handleRequest L req₂ client id₂ s.world).world := by
    rw [hworld₂, handleRequest_routed _ _ _ (hroute _)]
    rfl
  simp only [hfinish] at hstage₁ hevents₁ hworld₁ htrace₁
  refine ⟨s₁, h₁, h₂, hr₁, ⟨hreq₂, hid₂, harr₂, hstage₂, hevents₂⟩,
    ⟨hreq₁, hid₁, harr₁, hstage₁, hevents₁⟩, hworld₁, ?_⟩
  rw [htrace₁, htrace₂, htrace, hworld₂]
  rfl

/-- One key for all, one request a second. -/
def sharedGateway : Gateway Regex.Re (Text → Nat) (List (Text × CachedResponse)) Unit Unit :=
  plainGateway apiRoutes none (some ⟨true, 1, 1, .global⟩) none

/-- Its libraries; no token is ever looked at. -/
def sharedLibraries : Libraries Regex.Re (Text → Nat) (List (Text × CachedResponse)) Unit Unit :=
  plainLibraries (TokenDecoder.ofSigned [])

/-- What is sent for `GET /api/users`. -/
def usersRequest : OutRequest := ⟨.get, "http://localhost:3000/api/users", .empty, [], none⟩

/-- A request through it. -/
def usersGet : Request := Router.plainGet "/api/users"

theorem shared_routes (d : Unit) :
    sharedGateway.router.matchRoute sharedLibraries.regex usersGet d = (some apiMatch, d) := by
  cases d
  decide

/-- At the beginning a request is sent, and the limiter is then at its bound. -/
theorem shared_sent :
    (sharedGateway.handleRequest sharedLibraries usersGet peer "id-2" (freshWorld 0)).reply =
        .ok ⟨.ok, .empty, []⟩ ∧
      (sharedGateway.handleRequest sharedLibraries usersGet peer "id-2" (freshWorld 0)).events =
        [.tick "global" true, .send usersRequest] ∧
      (sharedGateway.handleRequest sharedLibraries usersGet peer "id-2"
        (freshWorld 0)).world.now = 0 ∧
      (sharedGateway.handleRequest sharedLibraries usersGet peer "id-2"
        (freshWorld 0)).world.limiter "global" = 1000000000 :=
  ⟨rfl, rfl, rfl, rfl⟩

/-- At that bound it refuses. -/
theorem shared_refused (id : Text)
    {w : World (Text → Nat) (List (Text × CachedResponse)) Unit Unit} (hnow : w.now = 0)
    (hfull : w.limiter "global" = 1000000000) :
    (sharedGateway.handleRequest sharedLibraries usersGet peer id w).reply = tooManyRequests ∧
      (sharedGateway.handleRequest sharedLibraries usersGet peer id w).events =
        [.tick "global" false] ∧
      (sharedGateway.handleRequest sharedLibraries usersGet peer id w).world.now = 0 := by
  have hcheck : (gcra (RateLimitLayer.quota 1 1)).checkKey w.limiter "global" w.now =
      (false, Function.update w.limiter "global" 1000000000) := by
    simp only [gcra, hnow, hfull]
    rfl
  have hlimited : sharedGateway.handleRequest sharedLibraries usersGet peer id w =
      sharedGateway.limited apiMatch ⟨"GET", "/api/users", "api"⟩ usersGet w := by
    rw [handleRequest_routed _ _ _ (shared_routes w.discovery)]
    rfl
  rw [hlimited]
  rcases limited_cases apiMatch ⟨"GET", "/api/users", "api"⟩ usersGet w sharedGateway with
    ⟨hnone, -⟩ | ⟨rl, l, hrl, hpass, -⟩ | ⟨rl, l, hrl, -, h⟩
  · cases hnone
  · cases hrl
    cases hpass.symm.trans hcheck
  · cases hrl
    rw [h]
    exact ⟨rfl, rfl, hnow⟩

/-- Two requests through it that overlap: the second to come in is sent, the first is refused. -/
theorem shared_overlapping : ∃ s h₁ h₂,
    Reachable (Server.system sharedLibraries sharedGateway false) (.init (freshWorld 0))
      ⟨s, [.busy h₂, .busy h₁]⟩ ∧
      HandledAs h₁ usersGet "id-1" 0 tooManyRequests [.tick "global" false] ∧
      HandledAs h₂ usersGet "id-2" 0 (.ok ⟨.ok, .empty, []⟩)
        [.tick "global" true, .send usersRequest] ∧
      s.world.now = 0 ∧
      s.trace = [(0, .tick "global" true), (0, .send usersRequest), (0, .tick "global" false)] := by
  obtain ⟨s, h₁, h₂, hr, hsecond, hfirst, hworld, htrace⟩ :=
    overlapping sharedLibraries sharedGateway usersGet usersGet peer "id-1" "id-2" (freshWorld 0)
      shared_routes
  obtain ⟨hok, hsent, hnow, hfull⟩ := shared_sent
  obtain ⟨hrefusal, hrefused, hlater⟩ := shared_refused "id-1" hnow hfull
  rw [hok, hsent] at hsecond
  rw [hrefusal, hrefused] at hfirst
  rw [hsent, hrefused, hnow] at htrace
  exact ⟨s, h₁, h₂, hr, hfirst, hsecond, (congrArg World.now hworld).trans hlater, htrace⟩

/-- A request that is explained is handled as in one piece with the answers it was told. -/
theorem Explained.serial {s : Server lim κ υ δ} {h : Handling} (hs : Explained L g s (.busy h))
    (client : SocketAddr) :
    ∃ script : Script, h.arrived ≤ script.now ∧ script.now ≤ s.world.now ∧
      h.events <+:
        (g.scripted.handleRequest L.scripted h.request client h.requestId script).events ∧
      ∀ reply, h.stage = .answered reply →
        (g.scripted.handleRequest L.scripted h.request client h.requestId script).reply = reply ∧
        (g.scripted.handleRequest L.scripted h.request client h.requestId script).events =
          h.events := by
  obtain ⟨⟨past, hpast, harrived, hle⟩, -⟩ := hs
  obtain ⟨samples, hrun⟩ := hpast (.empty past.now) fun _ => rfl
  refine ⟨past.before (.empty past.now), harrived, hle, ?_⟩
  -- enough steps for the whole of the request, the ones it has taken first
  have hstamp : g.scripted.stampRequestId h.requestId h.request =
      g.stampRequestId h.requestId h.request := rfl
  obtain ⟨logs, hall⟩ := runStages_handleRequest (L := L.scripted) (g := g.scripted) h.requestId
    h.request client (past.before (.empty past.now))
    (Nat.le_add_left (g.scripted.maxAttempts + 5) h.steps)
  rw [hstamp, runStages_add] at hall
  simp only [hrun] at hall
  have hevents := congrArg (·.events) hall
  have hstage := congrArg (·.stage) hall
  simp only at hevents hstage
  refine ⟨⟨_, hevents⟩, fun reply hreply => ?_⟩
  rw [hreply, runStages_of_answered] at hevents hstage
  simp only [List.append_nil] at hevents hstage
  exact ⟨(Stage.answered.inj hstage).symm, hevents.symm⟩

section Reachable

variable {w : World lim κ υ δ} {tls : Bool} {pool : Pool (Server lim κ υ δ) Conn}

theorem explained_of_reachable (hr : Reachable (Server.system L g tls) (.init w) pool)
    {h : Handling} (hh : .busy h ∈ pool.tasks) : Explained L g pool.shared (.busy h) :=
  (Reachable.keeps (explained_keeps tls) trivial hr).2 _ hh

/-- **Side by side is one at a time.**  In every interleaving, with connections that end anywhere,
each request is handled as `handle_request` alone handles it, in a gateway from the same
configuration, with some answers of the limiter, the cache, the upstream and the discovery, at a
time between its arrival and now: what it has done so far is the beginning of that, and once it is
answered it is that. -/
theorem interleaved_serial {config : GatewayConfig} {d d' : δ}
    (hnew : new L config d = .ok (g, d')) (hr : Reachable (Server.system L g tls) (.init w) pool)
    {h : Handling} (hh : .busy h ∈ pool.tasks) (client : SocketAddr) :
    (∀ answers, new L.scripted config answers = .ok (g.scripted, answers)) ∧
    ∃ script : Script, h.arrived ≤ script.now ∧ script.now ≤ pool.shared.world.now ∧
      h.events <+:
        (g.scripted.handleRequest L.scripted h.request client h.requestId script).events ∧
      ∀ reply, h.stage = .answered reply →
        (g.scripted.handleRequest L.scripted h.request client h.requestId script).reply = reply ∧
        (g.scripted.handleRequest L.scripted h.request client h.requestId script).events =
          h.events :=
  ⟨new_scripted hnew, (explained_of_reachable hr hh).serial client⟩

/-- Two requests that overlap: each is what it would be in one piece, with answers of its own. -/
theorem interleaved_serial_overlapping : ∃ pool h₁ h₂ script₁ script₂,
    Reachable (Server.system sharedLibraries sharedGateway false) (.init (freshWorld 0)) pool ∧
      pool.tasks = [.busy h₂, .busy h₁] ∧
      (sharedGateway.scripted.handleRequest sharedLibraries.scripted h₁.request peer h₁.requestId
        script₁).events = [.tick "global" false] ∧
      (sharedGateway.scripted.handleRequest sharedLibraries.scripted h₂.request peer h₂.requestId
        script₂).events = [.tick "global" true, .send usersRequest] := by
  obtain ⟨s, h₁, h₂, hr, hfirst, hsecond, -⟩ := shared_overlapping
  have hnew : new sharedLibraries (plainConfig apiRoutes none (some ⟨true, 1, 1, .global⟩)) () =
      .ok (sharedGateway, ()) :=
    new_plain (TokenDecoder.ofSigned []) apiRoutes none (some ⟨true, 1, 1, .global⟩) rfl
  obtain ⟨-, script₁, -, -, -, hall₁⟩ := interleaved_serial (h := h₁) hnew hr (by simp) peer
  obtain ⟨-, script₂, -, -, -, hall₂⟩ := interleaved_serial (h := h₂) hnew hr (by simp) peer
  exact ⟨_, h₁, h₂, script₁, script₂, hr, rfl, (hall₁ _ hfirst.stage).2.trans hfirst.events,
    (hall₂ _ hsecond.stage).2.trans hsecond.events⟩

end Reachable

end Gateway

end MiniGateway
