import Mathlib.Logic.Relation
import MiniGateway.Properties.Answers
import MiniGateway.Properties.Backends
import MiniGateway.Properties.Balancing

/-!
# Properties — Caching

Runs of one gateway over its response cache: requests are handled, and in between time passes and
the rest of the world moves.

`handle_request` looks its answer up and never stores one: all it does to the cache is to read it,
and it has a hit only where the backend found something (`handleRequest_readsOnly`).  A cache that
starts out empty therefore stays empty for the whole run (`Run.empty`), and no request is ever
answered out of it (`repeat_never_from_cache`).
-/

namespace MiniGateway

open Http RateLimit

/-- Nothing is found in an empty cache, and looking leaves it empty. -/
def CacheBackendTrait.KeepsEmpty {κ : Type} (b : CacheBackendTrait κ) (Empty : κ → Prop) : Prop :=
  ∀ k key, Empty k → (∀ c, (b.get k key).1 ≠ .ok (some c)) ∧ Empty (b.get k key).2

/-- The memory backend does. -/
theorem MemoryCache.backend_keepsEmpty {μ : Type} {B : Store.Bounded μ Text CachedResponse}
    {capacity : μ → Nat} {contents : μ → Text → Option CachedResponse}
    (hB : B.Documented capacity contents) :
    (MemoryCache.backend B).KeepsEmpty fun m => contents m = fun _ => none := by
  intro m key hm
  obtain ⟨hfound, -, hkept⟩ := hB.get m key
  refine ⟨fun c hc => ?_, hkept.trans hm⟩
  have hsome : contents m key = some c := hfound.symm.trans (Except.ok.inj hc)
  rw [hm] at hsome
  cases hsome

namespace Gateway

variable {ρ lim κ υ δ : Type} {L : Libraries ρ lim κ υ δ} {config : GatewayConfig}
  {g : Gateway ρ lim κ υ δ}

/-- An enabled section gives a cache layer with its configuration. -/
theorem Built.cacheLayer_spec (h : Built L config g) {c : CacheConfig}
    (hc : config.cache = some c) (hen : c.enabled = true) :
    ∃ cache, g.cacheLayer = some cache ∧ cache.config = c := by
  have hcache := h.cache
  simp only [cacheLayerOf, hc, hen, if_true] at hcache
  rw [CacheLayer.new] at hcache
  split at hcache
  · exact ⟨_, (Except.ok.inj hcache).symm, rfl⟩
  · split at hcache
    · exact ⟨_, (Except.ok.inj hcache).symm, rfl⟩
    · cases hcache

/-! ### What a request does to the cache -/

/-- What happens in the cache stage: the cache is left as it is or read once, and a hit is what the
backend found. -/
structure ReadsOnly (g : Gateway ρ lim κ υ δ) (k : κ) (h : Handled lim κ υ δ) : Prop where
  cache : h.world.cache = k ∨
    ∃ layer key, g.cacheLayer = some layer ∧ h.world.cache = (layer.backend.get k key).2
  hit : ∀ key, .lookup key true ∈ h.events →
    ∃ layer c, g.cacheLayer = some layer ∧ (layer.backend.get k key).1 = .ok (some c)

/-- A result that has the cache as it was and no hit. -/
theorem ReadsOnly.of_eq {k : κ} {h : Handled lim κ υ δ} (hk : h.world.cache = k)
    (hno : ∀ key, .lookup key true ∉ h.events) : ReadsOnly g k h :=
  ⟨Or.inl hk, fun key hmem => absurd hmem (hno key)⟩

theorem ReadsOnly.after {k : κ} {h : Handled lim κ υ δ} {e : Event}
    (he : ∀ key, e ≠ .lookup key true) (hr : ReadsOnly g k h) : ReadsOnly g k (h.after e) :=
  ⟨hr.cache, fun key hmem => hr.hit key (List.mem_of_ne_of_mem (he key).symm hmem)⟩

section Stages

variable (route : RouteMatch) (metrics : RequestMetrics) (req : Request) (w : World lim κ υ δ)

/-- Sending a request does not touch the cache. -/
theorem lookup_not_mem_forward (g : Gateway ρ lim κ υ δ) (key : Text) (hit : Bool) :
    .lookup key hit ∉ (g.forward route metrics req w).events := by
  intro he
  rcases ProxyClient.proxy_events _ _ _ _ _ he with ⟨ms, h⟩ | ⟨out, -, h⟩ <;> cases h

theorem cached_readsOnly (g : Gateway ρ lim κ υ δ) :
    ReadsOnly g w.cache (g.cached route metrics req w) := by
  have hforward : ReadsOnly g w.cache (g.forward route metrics req w) :=
    .of_eq rfl fun key => lookup_not_mem_forward route metrics req w g key true
  rw [cached]
  split
  · rename_i cache hc
    split
    · simp only
      split
      · rename_i c k hget
        refine ⟨Or.inr ⟨cache, cache.buildKey req, hc, by rw [hget]; rfl⟩, fun key hmem => ?_⟩
        obtain ⟨rfl, -⟩ := Event.lookup.inj (List.mem_singleton.mp hmem)
        exact ⟨cache, c, hc, by rw [hget]⟩
      · rename_i answer k hget
        refine ⟨Or.inr ⟨cache, cache.buildKey req, hc, by rw [hget]; rfl⟩, fun key hmem => ?_⟩
        exact absurd (List.mem_of_ne_of_mem (by simp) hmem)
          (lookup_not_mem_forward route metrics req _ g key true)
    · exact hforward
  · exact hforward

theorem limited_readsOnly (g : Gateway ρ lim κ υ δ) :
    ReadsOnly g w.cache (g.limited route metrics req w) := by
  rcases limited_cases route metrics req w g with ⟨-, h⟩ | ⟨rl, l, -, -, h⟩ | ⟨rl, l, -, -, h⟩
  · rw [h]
    exact cached_readsOnly route metrics req w g
  · rw [h]
    exact (cached_readsOnly route metrics req { w with limiter := l } g).after fun key => by simp
  · rw [h]
    exact .of_eq rfl fun key => by simp

end Stages

/-- **Handling a request does not store anything**: it reads the cache, once at most. -/
theorem handleRequest_readsOnly (L : Libraries ρ lim κ υ δ) (g : Gateway ρ lim κ υ δ)
    (req : Request) (client : SocketAddr) (id : Text) (w : World lim κ υ δ) :
    ReadsOnly g w.cache (g.handleRequest L req client id w) := by
  rcases hm : g.router.matchRoute L.regex req w.discovery with ⟨_ | route, d⟩
  · rw [handleRequest_unrouted req client id hm]
    exact .of_eq rfl fun key => List.not_mem_nil
  · rw [handleRequest_routed req client id hm]
    rcases routed_cases route (g.stampRequestId id req) { w with discovery := d } g L.tokens with
      ⟨reply, -, h⟩ | ⟨-, message, -, h⟩ | ⟨-, req', -, h⟩
    · rw [h]
      exact .of_eq rfl fun key => List.not_mem_nil
    · rw [h]
      exact .of_eq rfl fun key => List.not_mem_nil
    · rw [h]
      exact limited_readsOnly _ _ req' { w with discovery := d } g

/-! ### Runs -/

/-- One step of a run: a request is handled, or time passes and the world changes around the
gateway.  Nobody else puts anything into the cache; entries may be lost. -/
inductive Step (L : Libraries ρ lim κ υ δ) (g : Gateway ρ lim κ υ δ) (Empty : κ → Prop) :
    World lim κ υ δ → World lim κ υ δ → Prop where
  | handle (w : World lim κ υ δ) (req : Request) (client : SocketAddr) (id : Text) :
      Step L g Empty w (g.handleRequest L req client id w).world
  | outside {w w' : World lim κ υ δ} (hnow : w.now ≤ w'.now)
      (hcache : Empty w.cache → Empty w'.cache) : Step L g Empty w w'

abbrev Run (L : Libraries ρ lim κ υ δ) (g : Gateway ρ lim κ υ δ) (Empty : κ → Prop) :
    World lim κ υ δ → World lim κ υ δ → Prop := Relation.ReflTransGen (Step L g Empty)

section Empty

variable {Empty : κ → Prop}
  (hE : ∀ cache, g.cacheLayer = some cache → cache.backend.KeepsEmpty Empty)

include hE

theorem ReadsOnly.empty {k : κ} {h : Handled lim κ υ δ} (hr : ReadsOnly g k h) (hk : Empty k) :
    Empty h.world.cache ∧ ∀ key, .lookup key true ∉ h.events := by
  refine ⟨?_, fun key hmem => ?_⟩
  · rcases hr.cache with hsame | ⟨layer, key, hl, hread⟩
    · exact hsame ▸ hk
    · exact hread ▸ (hE layer hl k key hk).2
  · obtain ⟨layer, c, hl, hfound⟩ := hr.hit key hmem
    exact (hE layer hl k key hk).1 c hfound

/-- A step keeps an empty cache empty. -/
theorem Step.empty {w w' : World lim κ υ δ} (h : Step L g Empty w w') (hw : Empty w.cache) :
    Empty w'.cache := by
  cases h with
  | handle req client id => exact ((handleRequest_readsOnly L g req client id w).empty hE hw).1
  | outside _ hcache => exact hcache hw

/-- **So does a run.** -/
theorem Run.empty {w w' : World lim κ υ δ} (h : Run L g Empty w w') (hw : Empty w.cache) :
    Empty w'.cache := by
  induction h with
  | refl => exact hw
  | tail _ hstep ih => exact hstep.empty hE ih

end Empty

/-! ### Requests that come again -/

/-- **The second request is answered out of the cache**, as the first one was answered, with
`x-cache: HIT`; nothing is sent. -/
def FromCache (first second : Handled lim κ υ δ) : Prop :=
  (∃ key, .lookup key true ∈ second.events) ∧ (∀ out, .send out ∉ second.events) ∧
    ∃ r r', first.reply = .ok r ∧ second.reply = .ok r' ∧ r'.status = r.status ∧
      r'.body = r.body ∧ r'.headers = r.headers.append cacheName hitValue

/-- **A request comes again in time.**  In a run that starts with an empty cache, a `GET` of a
cached route is sent upstream and gets an answer that is to be cached.  The same request comes
again, before the time to live is over; its token is still valid and the limiter admits it. -/
structure ComesAgain (L : Libraries ρ lim κ υ δ) (g : Gateway ρ lim κ υ δ) (cache : CacheLayer κ)
    (Empty : κ → Prop) (first second : Visit lim κ υ δ) : Prop where
  reached : ∃ start : World lim κ υ δ, Empty start.cache ∧ Run L g Empty start first.world
  between : Run L g Empty (g.visit L first).world second.world
  same : second.request = first.request
  get : first.request.method = .get
  sent : ∃ out, .send out ∈ (g.visit L first).events
  cacheable : ∃ r, (g.visit L first).reply = .ok r ∧
    cache.shouldCache first.request r.status.code = true
  inTime : second.world.now < first.world.now + fromSecs cache.config.defaultTtlSecs
  route : ∃ route d, g.router.matchRoute L.regex second.request second.world.discovery =
    (some route, d) ∧ route.cacheEnabled = true
  admitted : ∃ req', g.authenticate L.tokens (second.world.now / nanos)
    (g.stampRequestId second.requestId second.request) = .ok req' ∧ g.Admits second.world req'

/-- The cache is asked, and has nothing. -/
theorem cached_missed {cache : CacheLayer κ} (hc : g.cacheLayer = some cache) {route : RouteMatch}
    (hroute : route.cacheEnabled = true) {req : Request} (hget : req.method = .get)
    {w : World lim κ υ δ}
    (hmiss : ∀ c, (cache.backend.get w.cache (cache.buildKey req)).1 ≠ .ok (some c))
    (metrics : RequestMetrics) :
    .lookup (cache.buildKey req) false ∈ (g.cached route metrics req w).events := by
  rw [cached, hc]
  simp only [hroute, hget, Bool.true_and, decide_true, if_true]
  rcases hread : cache.backend.get w.cache (cache.buildKey req) with ⟨_ | _ | c, k⟩
  · exact List.mem_cons_self
  · exact List.mem_cons_self
  · exact absurd (congrArg Prod.fst hread) (hmiss c)

theorem limited_missed {cache : CacheLayer κ} (hc : g.cacheLayer = some cache) {route : RouteMatch}
    (hroute : route.cacheEnabled = true) {req : Request} (hget : req.method = .get)
    {w : World lim κ υ δ}
    (hmiss : ∀ c, (cache.backend.get w.cache (cache.buildKey req)).1 ≠ .ok (some c))
    (hadm : g.Admits w req) (metrics : RequestMetrics) :
    .lookup (cache.buildKey req) false ∈ (g.limited route metrics req w).events := by
  rcases limited_cases route metrics req w g with ⟨-, h⟩ | ⟨rl, l, -, -, h⟩ |
      ⟨rl, l, hr, hcheck, -⟩
  · rw [h]
    exact cached_missed hc hroute hget hmiss metrics
  · have hmem := cached_missed hc hroute hget (w := { w with limiter := l }) hmiss metrics
    rw [h]
    exact List.mem_cons_of_mem _ hmem
  · have hyes := hadm rl hr
    rw [hcheck] at hyes
    cases hyes

/-- **The cache is never of use.**  A configuration with an enabled cache gives a layer; and however
a request comes again, the lookup for it misses, and it is not answered out of the cache. -/
theorem repeat_never_from_cache {d d' : δ} {c : CacheConfig}
    (hnew : new L config d = .ok (g, d')) (hcache : config.cache = some c)
    (hen : c.enabled = true) : ∃ cache, g.cacheLayer = some cache ∧ cache.config = c ∧
      ∀ Empty : κ → Prop, cache.backend.KeepsEmpty Empty → ∀ first second : Visit lim κ υ δ,
        ComesAgain L g cache Empty first second →
        (∃ key, .lookup key false ∈ (g.visit L second).events) ∧
          ¬ FromCache (g.visit L first) (g.visit L second) := by
  obtain ⟨cache, hlayer, hconfig⟩ := (new_built hnew).cacheLayer_spec hcache hen
  refine ⟨cache, hlayer, hconfig, fun Empty hE first second h => ?_⟩
  have hlayers : ∀ cache', g.cacheLayer = some cache' → cache'.backend.KeepsEmpty Empty := by
    intro cache' hl
    cases hlayer.symm.trans hl
    exact hE
  -- the cache the second request finds is as empty as the run began
  have hempty : Empty second.world.cache := by
    obtain ⟨start, hstart, hrun⟩ := h.reached
    have hfirst := hrun.empty hlayers hstart
    have hvisit := (handleRequest_readsOnly L g first.request first.client first.requestId
      first.world).empty hlayers hfirst
    exact h.between.empty hlayers hvisit.1
  have hno := (handleRequest_readsOnly L g second.request second.client second.requestId
    second.world).empty hlayers hempty
  refine ⟨?_, fun hfrom => ?_⟩
  · obtain ⟨route, d, hroute, hcached⟩ := h.route
    obtain ⟨req', hauth, hadm⟩ := h.admitted
    have hget : (g.stampRequestId second.requestId second.request).method = .get := by
      rw [stampRequestId_method, h.same, h.get]
    rw [visit, handleRequest_routed _ _ _ hroute]
    rcases routed_cases route (g.stampRequestId second.requestId second.request)
        { second.world with discovery := d } g L.tokens with ⟨reply, hp, -⟩ |
        ⟨-, message, ha, -⟩ | ⟨-, req'', ha, hr⟩
    · -- a `GET` is no preflight
      have hnone : g.preflight (g.stampRequestId second.requestId second.request) = none := by
        rw [preflight_eq_none_iff]
        rintro ⟨cors, -, hm, -⟩
        cases hget.symm.trans hm
      rw [hnone] at hp
      cases hp
    · cases hauth.symm.trans ha
    · cases hauth.symm.trans ha
      have hget' : req'.method = .get := by
        obtain ⟨headers, rfl⟩ := authenticate_headers hauth
        exact hget
      rw [hr]
      exact ⟨_, limited_missed hlayer hcached hget' (w := { second.world with discovery := d })
        (hE _ _ hempty).1 hadm _⟩
  · obtain ⟨⟨key, hhit⟩, -⟩ := hfrom
    exact hno.2 key hhit

/-! ### A cached route -/

/-- `plainLibraries`, with the memory backend over a map. -/
def mapLibraries : Libraries Regex.Re (Text → Nat) (Nat × (Text → Option CachedResponse)) Unit Unit
    where
  regex := Regex.reference
  tokens := tokenLibraries.tokens
  keyed := gcra
  memory _ := MemoryCache.backend mapCache
  redis _ := .error (.cache "Connection refused")
  consul := tokenLibraries.consul
  etcd := tokenLibraries.etcd
  tlsAcceptor := tokenLibraries.tlsAcceptor
  client := tokenLibraries.client

/-- The cache of the integration tests. -/
def testCache : CacheConfig where
  enabled := true
  backend := .memory
  defaultTtlSecs := 60
  maxCapacity := some 1000
  cacheableMethods := ["GET".toList]
  cacheableStatuses := [200]
  keyStrategy := .uri
  excludedPaths := []

def cachedRoutes : List RouteConfig :=
  [{ Router.plainRoute "api" "/api/**" "http://localhost:3000" with cacheEnabled := some true }]

def cachingConfig : GatewayConfig :=
  { plainConfig cachedRoutes none none with cache := some testCache }

def cachingGateway :
    Gateway Regex.Re (Text → Nat) (Nat × (Text → Option CachedResponse)) Unit Unit where
  config := cachingConfig
  router := Router.ofRoutes cachedRoutes
  proxyClient := ⟨okClient⟩
  authLayer := none
  rateLimitLayer := none
  corsLayer := none
  cacheLayer := some ⟨MemoryCache.backend mapCache, testCache⟩

theorem new_caching : new mapLibraries cachingConfig () = .ok (cachingGateway, ()) := by
  have hrouter : Router.new mapLibraries.regex cachingConfig.routes =
      .ok (Router.ofRoutes cachedRoutes : Router Regex.Re Unit) := Router.new_reference cachedRoutes
  rw [new, hrouter]
  rfl

/-- `GET /api/echo`, with the cache as it was built. -/
def echo : Visit (Text → Nat) (Nat × (Text → Option CachedResponse)) Unit Unit :=
  ⟨peer, Router.plainGet "/api/echo", "id",
    ⟨0, fun _ => 0, MemoryCache.new mapCache testCache.maxCapacity, (), (), []⟩⟩

/-- The same request, one second later. -/
def echoAgain : Visit (Text → Nat) (Nat × (Text → Option CachedResponse)) Unit Unit :=
  { echo with world := { (cachingGateway.visit mapLibraries echo).world with now := fromSecs 1 } }

theorem echo_comesAgain : ComesAgain mapLibraries cachingGateway
    ⟨MemoryCache.backend mapCache, testCache⟩ (fun m => m.2 = fun _ => none)
    echo echoAgain where
  reached := ⟨echo.world, rfl, .refl⟩
  between := .single (.outside (Nat.zero_le _) fun _ => rfl)
  same := rfl
  get := rfl
  sent := ⟨_, List.mem_cons_of_mem _ List.mem_cons_self⟩
  cacheable := ⟨_, rfl, by decide⟩
  inTime := by decide
  route := ⟨_, _, rfl, rfl⟩
  admitted := ⟨_, rfl, fun rl hr => by cases hr⟩

/-- It is looked up, and not found. -/
theorem repeat_never_from_cache_echo :
    ¬ FromCache (cachingGateway.visit mapLibraries echo)
        (cachingGateway.visit mapLibraries echoAgain) := by
  obtain ⟨cache, hlayer, -, hnever⟩ := repeat_never_from_cache new_caching rfl rfl
  cases hlayer
  exact (hnever _ (MemoryCache.backend_keepsEmpty mapCache_documented) _ _ echo_comesAgain).2

/-- It is sent upstream again, although the first answer was to be cached for a minute. -/
theorem echo_sent_again :
    new mapLibraries cachingConfig () = .ok (cachingGateway, ()) ∧
    ComesAgain mapLibraries cachingGateway ⟨MemoryCache.backend mapCache, testCache⟩
      (fun m => m.2 = fun _ => none) echo echoAgain ∧
    (∃ out, .send out ∈ (cachingGateway.visit mapLibraries echoAgain).events) ∧
    ¬ FromCache (cachingGateway.visit mapLibraries echo)
        (cachingGateway.visit mapLibraries echoAgain) := by
  have hsent : ∃ out, .send out ∈ (cachingGateway.visit mapLibraries echoAgain).events :=
    ⟨_, List.mem_cons_of_mem _ List.mem_cons_self⟩
  refine ⟨new_caching, echo_comesAgain, hsent, fun hfrom => ?_⟩
  obtain ⟨out, hout⟩ := hsent
  exact hfrom.2.1 out hout

end Gateway

end MiniGateway
