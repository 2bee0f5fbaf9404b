import MiniGateway.Properties.Caching
import MiniGateway.Properties.CorsService
import MiniGateway.Properties.Server

/-!
# Properties — Panics

When no task of the gateway at work panics.  A request panics only over text that nothing has
checked: the lists of the CORS section, and what comes out of the cache.  So where the lists are
legal, and nobody puts anything else than legal answers into the cache, no task panics in any
interleaving, every answer is a response, and the deltas of the gauge come to the number of the
connections (`never_panics`).

The configurations the program brings along are of that kind (`default_writable`,
`demo_writable`).
-/

namespace MiniGateway.Gateway

open Http RateLimit Tasks

variable {ρ lim κ υ δ : Type} {L : Libraries ρ lim κ υ δ} {g : Gateway ρ lim κ υ δ} {P : κ → Prop}

/-- Whatever is found in a cache with `P` is legal, and looking keeps `P`. -/
def HoldsLegal (g : Gateway ρ lim κ υ δ) (P : κ → Prop) : Prop :=
  ∀ cache, g.cacheLayer = some cache → ∀ k key, P k →
    P (cache.backend.get k key).2 ∧
      ∀ v, (cache.backend.get k key).1 = .ok (some v) → v.Legal

/-- The configured lists are legal. -/
def WritesCors (g : Gateway ρ lim κ υ δ) : Prop :=
  ∀ cors, g.corsLayer = some cors → cors.Writable

/-- An answer is a response. -/
def Replies (stage : Stage) : Prop :=
  ∀ reply, stage = .answered reply → ∃ r, reply = .ok r

/-! ### One step -/

/-- What comes after `proxy` is a response. -/
theorem Concludes.replies (hcors : g.WritesCors) {reply : Except Panic Response}
    (h : g.Concludes reply) : ∃ r, reply = .ok r := by
  rcases h with ⟨e, rfl⟩ | ⟨r, rfl⟩
  · obtain ⟨r, hr, -⟩ := errorReply_status e
    exact ⟨r, hr⟩
  · exact (withCors_ok_iff r).mpr fun cors hc _ => (hcors cors hc).exposable

/-- A lookup that finds nothing keeps the cache. -/
theorem Missed.keeps (hcache : g.HoldsLegal P) {w : World lim κ υ δ} (hw : P w.cache)
    {req : Request} {k : κ} {events : List Event} (h : Missed g w req k events) : P k := by
  cases h with
  | unasked => exact hw
  | asked hlayer => exact (hcache _ hlayer w.cache _ hw).1

/-- **One step of a request.** -/
theorem advance_replies (hcors : g.WritesCors) (hcache : g.HoldsLegal P) (id : Text)
    {w : World lim κ υ δ} (hw : P w.cache) {stage : Stage} (hstage : Replies stage) :
    P (g.advance L id w stage).world.cache ∧ Replies (g.advance L id w stage).stage := by
  have h := advance_advances (L := L) (g := g) id w stage
  generalize g.advance L id w stage = p at h ⊢
  cases h with
  | unrouted =>
      refine ⟨hw, ?_⟩
      rintro reply ⟨⟩
      exact ⟨_, rfl⟩
  | preflight h =>
      refine ⟨hw, ?_⟩
      rintro reply ⟨⟩
      exact (preflight_ok_iff h).mpr hcors
  | @rejected _ _ message =>
      refine ⟨hw, ?_⟩
      rintro reply ⟨⟩
      obtain ⟨r, hr, -⟩ := unauthorized_status message
      exact ⟨r, hr⟩
  | refused =>
      refine ⟨hw, ?_⟩
      rintro reply ⟨⟩
      exact ⟨_, rfl⟩
  | @hit _ _ _ cache found _ hlayer hfound =>
      obtain ⟨hkept, hlegal⟩ := hcache cache hlayer w.cache _ hw
      rw [hfound] at hkept hlegal
      refine ⟨hkept, ?_⟩
      rintro reply ⟨⟩
      exact (hitReply_ok_iff found).mpr (hlegal found rfl)
  | unprepared h =>
      refine ⟨h.keeps hcache hw, ?_⟩
      rintro reply ⟨⟩
      exact Concludes.replies hcors (Or.inl ⟨_, rfl⟩)
  | prepared h => exact ⟨h.keeps hcache hw, fun reply h => by cases h⟩
  | concluded _ hreply =>
      refine ⟨hw, ?_⟩
      rintro reply ⟨⟩
      exact hreply.replies hcors
  | answered => exact ⟨hw, hstage⟩
  | _ => exact ⟨hw, fun reply h => by cases h⟩

/-! ### Whole runs -/

/-- What is answered on a connection is a response. -/
def ConnReplies : Conn → Prop
  | .busy h => Replies h.stage
  | .handshaking => True
  | .idle => True

/-- Nothing has panicked, and the cache holds what it should. -/
def Unharmed (P : κ → Prop) (s : Server lim κ υ δ) : Prop := s.panicked = 0 ∧ P s.world.cache

theorem unharmed_keeps (hcors : g.WritesCors) (hcache : g.HoldsLegal P) (tls : Bool) :
    Keeps ((Server.system L g tls).within fun s => P s.world.cache) (Unharmed P)
      fun _ => ConnReplies where
  moves {s c s' c'} hs hc hmove := by
    obtain ⟨hnone, hP⟩ := hs
    refine (?_ : Unharmed P s' ∧ ∀ u, c' = some u → ConnReplies u).imp_right fun h =>
      ⟨h, fun _ => id⟩
    cases hmove with
    | secured => exact ⟨⟨hnone, hP⟩, by rintro u ⟨⟩; trivial⟩
    | refused => exact ⟨⟨hnone, hP⟩, by rintro u ⟨⟩⟩
    | request req id => exact ⟨⟨hnone, hP⟩, by rintro u ⟨⟩ reply ⟨⟩⟩
    | advance _ hp =>
        subst hp
        obtain ⟨hP', hreplies⟩ := advance_replies (L := L) hcors hcache _ hP hc
        exact ⟨⟨hnone, hP'⟩, by rintro u ⟨⟩; exact hreplies⟩
    | reply hr => exact ⟨⟨hnone, hP⟩, by rintro u ⟨⟩; trivial⟩
    | panic he =>
        obtain ⟨r, hr⟩ := hc _ he
        cases hr
    | closed => exact ⟨⟨hnone, hP⟩, by rintro u ⟨⟩⟩
    | dropped => exact ⟨⟨hnone, hP⟩, by rintro u ⟨⟩⟩
  starts {s s' c} hs hstart := by
    cases hstart with
    | accept h =>
        refine ⟨hs, ?_, fun _ => id⟩
        cases tls <;> trivial
  changes {s s'} hs hchange := by
    obtain ⟨hchange, hkept⟩ := hchange
    obtain ⟨hnone, hP⟩ := hs
    have hnone' : s'.panicked = 0 := by
      cases hchange with
      | world => exact hnone
      | failed => exact hnone
    exact ⟨⟨hnone', hkept hP⟩, fun _ => id⟩

/-- **No panics.**  Under every configuration that is admitted with lists of CORS that are legal,
and with a cache that holds legal answers and into which nobody puts others: in every interleaving
no task panics, every answer is a response, and the deltas the gauge is given come to the number of
the connections. -/
theorem never_panics {config : GatewayConfig} {d d' : δ} (hnew : new L config d = .ok (g, d'))
    (hlists : ∀ cors, corsLayerOf config = some cors → cors.Writable) (hcache : g.HoldsLegal P)
    {w : World lim κ υ δ} (hw : P w.cache) {tls : Bool} {pool : Pool (Server lim κ υ δ) Conn}
    (hr : Reachable ((Server.system L g tls).within fun s => P s.world.cache) (.init w) pool) :
    pool.shared.panicked = 0 ∧ pool.shared.deltas.sum = pool.tasks.length ∧
      ∀ h, .busy h ∈ pool.tasks → ∀ reply, h.stage = .answered reply → ∃ r, reply = .ok r := by
  have hcors : g.WritesCors := by
    rw [WritesCors, (new_built hnew).cors]
    exact hlists
  obtain ⟨⟨hnone, -⟩, hreplies⟩ := Reachable.keeps (unharmed_keeps hcors hcache tls) ⟨rfl, hw⟩ hr
  refine ⟨hnone, ?_, fun h hh => hreplies _ hh⟩
  rw [deltas_sum hr.of_within, hnone, Int.natCast_zero, Int.add_zero]

/-! ### The program's own configurations -/

theorem default_writable (cors : CorsLayer) (h : corsLayerOf .default = some cors) :
    cors.Writable := by
  cases h
  exact ⟨by decide, by decide, fun _ => by decide⟩

theorem demo_writable (cors : CorsLayer) (h : corsLayerOf createDemoConfig = some cors) :
    cors.Writable := by
  cases h
  exact ⟨by decide, by decide, fun _ => by decide⟩

/-- The gateway of the demo configuration. -/
def demoGateway : Gateway Regex.Re (Text → Nat) (Nat × (Text → Option CachedResponse)) Unit Unit
    where
  config := createDemoConfig
  router := Router.ofRoutes createDemoConfig.routes
  proxyClient := ⟨okClient⟩
  authLayer := none
  rateLimitLayer := rateLimitLayerOf mapLibraries createDemoConfig
  corsLayer := corsLayerOf createDemoConfig
  cacheLayer := createDemoConfig.cache.map fun cache => ⟨MemoryCache.backend mapCache, cache⟩

theorem new_demo : new mapLibraries createDemoConfig () = .ok (demoGateway, ()) := by
  have hrouter : Router.new mapLibraries.regex createDemoConfig.routes =
      .ok (Router.ofRoutes createDemoConfig.routes : Router Regex.Re Unit) :=
    Router.new_reference createDemoConfig.routes
  rw [new, hrouter]
  rfl

/-- A memory cache with legal answers only. -/
def LegalMap (m : Nat × (Text → Option CachedResponse)) : Prop :=
  ∀ key v, m.2 key = some v → v.Legal

theorem demo_holdsLegal : demoGateway.HoldsLegal LegalMap := by
  rintro cache ⟨⟩ k key hk
  exact ⟨hk, fun v hv => hk key v (Except.ok.inj hv)⟩

/-- The world the demo starts in. -/
def demoWorld : World (Text → Nat) (Nat × (Text → Option CachedResponse)) Unit Unit :=
  ⟨0, fun _ => 0, MemoryCache.new mapCache (some 10000), (), (), []⟩

/-- A preflight at the demo is answered. -/
theorem demo_preflight : ∃ s h reply,
    Reachable ((Server.system mapLibraries demoGateway false).within fun s =>
      LegalMap s.world.cache) (.init demoWorld) ⟨s, [.busy h]⟩ ∧ h.stage = .answered reply := by
  have haccept := Relation.ReflTransGen.single (Step.start
    (S := (Server.system mapLibraries demoGateway false).within fun s => LegalMap s.world.cache)
    (s := .init demoWorld) [] (Server.Accepts.accept rfl))
  have hrequest := haccept.tail (Step.move [] [] (Server.Moves.request
    (fromOrigin .options "/api/echo" exampleOrigin) "id"))
  have hmatched := hrequest.tail
    (Step.move [] [] (Server.Moves.advance (fun _ h => by cases h) rfl))
  have hanswered := hmatched.tail
    (Step.move [] [] (Server.Moves.advance (fun _ h => by cases h) rfl))
  exact ⟨_, _, _, hanswered, rfl⟩

theorem never_panics_demo : ∃ s h r,
    Reachable ((Server.system mapLibraries demoGateway false).within fun s =>
      LegalMap s.world.cache) (.init demoWorld) ⟨s, [.busy h]⟩ ∧ h.stage = .answered (.ok r) ∧
      s.deltas.sum = 1 := by
  obtain ⟨s, h, reply, hr, hstage⟩ := demo_preflight
  obtain ⟨-, hdeltas, hreplies⟩ := never_panics new_demo demo_writable demo_holdsLegal
    (fun key v hv => by cases hv) hr
  obtain ⟨r, rfl⟩ := hreplies h (List.mem_singleton_self _) reply hstage
  exact ⟨s, h, r, hr, hstage, hdeltas⟩

end MiniGateway.Gateway
