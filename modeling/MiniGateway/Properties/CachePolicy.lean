import MiniGateway.Properties.Auth
import MiniGateway.Properties.CacheKeys
import MiniGateway.Source.Middleware

/-!
# Properties — Cache policy

What `should_cache` lets into the cache, and what of it `CacheMiddlewareService` asks.

* An excluded pattern is compared as text with the start of the path.  It keeps out of the cache
  what a route with the same pattern accepts exactly when it is no wildcard, or another pattern
  of the list is the start of its base (`exclusion_covers_iff`).
* The middleware asks the policy about a `GET` of `/`, whatever the request was.  It stores what
  the policy allows for the request exactly when the excluded patterns do not tell the two paths
  apart (`stores_iff_allowed_iff`).
-/

namespace MiniGateway.CacheLayer

open Http Regex Router

variable {κ ρ δ : Type} {E : Engine ρ}

/-! ### The policy -/

/-- The cache is on, and takes answers with this status to requests with this method. -/
def Takes (cache : CacheLayer κ) (method : Method) (status : Nat) : Prop :=
  cache.config.enabled = true ∧
    (∃ m ∈ cache.config.cacheableMethods, m.eqIgnoreAsciiCase method.text = true) ∧
    status ∈ cache.config.cacheableStatuses

/-- The path starts with the text of an excluded pattern. -/
def Excluded (cache : CacheLayer κ) (path : Text) : Prop :=
  ∃ e ∈ cache.config.excludedPaths, ∃ r, path = e ++ r

theorem excluded_iff (cache : CacheLayer κ) (path : Text) :
    cache.Excluded path ↔ cache.config.excludedPaths.any (path.startsWith ·) = true := by
  rw [List.any_eq_true]
  exact exists_congr fun e => and_congr_right fun _ => Text.startsWith_iff.symm

/-- **What is let into the cache.** -/
theorem shouldCache_iff (cache : CacheLayer κ) (req : Request) (status : Nat) :
    cache.shouldCache req status = true ↔
      cache.Takes req.method status ∧ ¬ cache.Excluded req.uri.path := by
  rw [excluded_iff, Takes, shouldCache]
  cases cache.config.enabled with
  | false => simp
  | true => simp [and_assoc]

/-- Below the base of a wildcard everything is excluded as soon as the base is. -/
theorem Excluded.append {cache : CacheLayer κ} {base : Text} (h : cache.Excluded base) (t : Text) :
    cache.Excluded (base ++ t) := by
  obtain ⟨e, he, r, rfl⟩ := h
  exact ⟨e, he, r ++ t, List.append_assoc _ _ _⟩

/-- **Cache exclusion against routing.**  The policy refuses every request that a route with an
excluded pattern accepts exactly when it refuses the method or the status anyway, or the pattern,
if it is a wildcard, has a base that starts with the text of an excluded one. -/
theorem exclusion_covers_iff (hE : E.Documented) {cache : CacheLayer κ} {route : RouteConfig}
    {url : Text} {router : Router ρ δ} (hp : route.path ∈ cache.config.excludedPaths)
    (hnew : Router.new E [route] = .ok router) (hm : route.methods = none)
    (hu : route.upstream = .static url) (d : δ) (method : Method) (status : Nat) :
    (∀ req, req.method = method → (router.matchRoute E req d).1.isSome = true →
      cache.shouldCache req status = false) ↔
    (cache.Takes method status → ∀ base, Glob.Wild route.path base → cache.Excluded base) := by
  have hrefused : ∀ req, cache.shouldCache req status = false ↔
      (cache.Takes req.method status → cache.Excluded req.uri.path) := by
    intro req
    rw [← Bool.not_eq_true, shouldCache_iff, not_and, not_not]
  refine ⟨fun h htakes base hw => ?_, fun h req hmethod hsome => ?_⟩
  · -- the base itself is a path the route accepts
    let req : Request := ⟨method, ⟨none, none, base, none⟩, .empty, .ok []⟩
    obtain ⟨r, hr, hmatch⟩ := AuthLayer.single_route_isSome hnew hm hu req d
    have hbase : E.isMatch r base = true := (isMatch_wild hE hw hr base).mpr (Or.inl rfl)
    exact (hrefused req).mp (h req rfl (hmatch.mpr hbase)) htakes
  · obtain ⟨r, hr, hmatch⟩ := AuthLayer.single_route_isSome hnew hm hu req d
    refine (hrefused req).mpr fun htakes => ?_
    rw [hmethod] at htakes
    by_cases hw : ∃ base, Glob.Wild route.path base
    · obtain ⟨base, hw⟩ := hw
      rcases (isMatch_wild hE hw hr _).mp (hmatch.mp hsome) with hx | ⟨t, hx, -⟩
      · rw [hx]
        exact h htakes base hw
      · rw [hx]
        exact (h htakes base hw).append _
    · have hx := (isMatch_plain hE (fun base hb => hw ⟨base, hb⟩) hr _).mp (hmatch.mp hsome)
      exact ⟨route.path, hp, [], by rw [hx, List.append_nil]⟩

/-- The cache section of the demo configuration, with these exclusions. -/
def demoConfig (excludedPaths : List Text) : CacheConfig where
  enabled := true
  backend := .memory
  defaultTtlSecs := 300
  maxCapacity := some 10000
  cacheableMethods := ["GET".toList]
  cacheableStatuses := [200, 301, 404]
  keyStrategy := .uriWithMethod
  excludedPaths := excludedPaths

/-- A cache over a list, configured so. -/
def demoCache (excludedPaths : List Text) : CacheLayer (List (Text × CachedResponse)) :=
  ⟨listCache, demoConfig excludedPaths⟩

/-- With its base in the list as well, the wildcard is covered. -/
theorem exclusion_covers_base :
    (demoCache ["/api/auth/**".toList, "/api/auth".toList]).shouldCache
      (plainGet "/api/auth/login") 200 = false := by
  refine (exclusion_covers_iff reference_documented
    (show (plainRoute "auth" "/api/auth/**" "http://b:1").path ∈ _ from List.mem_cons_self)
    (new_reference _) rfl rfl () .get 200).mpr ?_ (plainGet "/api/auth/login") rfl (by decide)
  intro _ base hw
  have hbase : Glob.Wild "/api/auth/**" "/api/auth" := Or.inl rfl
  obtain rfl := hbase.functional hw
  exact ⟨"/api/auth".toList, by simp [demoCache, demoConfig], [], by simp⟩

/-- The demo configuration caches the answers below `/api/auth`. -/
theorem exclusion_misses_login :
    "/api/auth/**".toList ∈ (demoCache ["/api/auth/**".toList]).config.excludedPaths ∧
      ((ofRoutes [plainRoute "auth" "/api/auth/**" "http://b:1"] : Router Re Unit).matchRoute
        reference (plainGet "/api/auth/login") ()).1.isSome = true ∧
      ¬ (demoCache ["/api/auth/**".toList]).shouldCache (plainGet "/api/auth/login") 200 =
        false := by
  decide

end MiniGateway.CacheLayer

namespace MiniGateway.CacheMiddlewareService

open Http CacheLayer

variable {σ κ ε : Type}

/-! ### The middleware -/

/-- The backend finds nothing under the request's key, or fails. -/
def Misses (service : CacheMiddlewareService σ κ ε) (req : Request) (k : κ) : Prop :=
  ∀ cached, (service.cache.backend.get k (service.cache.buildKey req)).1 ≠ .ok (some cached)

/-- `set` is called only if the policy allows the answer to the request, and with the request's
key whenever it does on a miss. -/
structure StoresAllowed (service : CacheMiddlewareService σ κ ε) (req : Request) (status : Nat)
    (k : κ) (calls : List CacheCall) : Prop where
  only : ∀ key value ttl, .set key value ttl ∈ calls → service.cache.shouldCache req status = true
  every : service.Misses req k → service.cache.shouldCache req status = true →
    ∃ value ttl, .set (service.cache.buildKey req) value ttl ∈ calls

/-- A hit calls nothing but `get`. -/
theorem calls_of_hit (service : CacheMiddlewareService σ κ ε) (s s' : σ) {req : Request} {k : κ}
    (hget : req.method = .get) (hhit : ¬ service.Misses req k) :
    ((service.call s req).1 s' k).calls = [.get (service.cache.buildKey req)] := by
  obtain ⟨cached, hcached⟩ := not_forall.mp hhit
  have hfound := not_not.mp hcached
  simp only [call, hget, if_true]
  split
  · rfl
  · rename_i hmiss heq
    exact absurd (by rw [← hfound, heq]) (hmiss cached)

/-- A miss awaits the wrapped service. -/
theorem call_of_miss (service : CacheMiddlewareService σ κ ε) (s s' : σ) {req : Request} {k : κ}
    (hget : req.method = .get) (hmiss : service.Misses req k) :
    (service.call s req).1 s' k = store service.cache (service.cache.buildKey req)
      ((service.inner.call s req).1 s')
      (service.cache.backend.get k (service.cache.buildKey req)).2 := by
  simp only [call, hget, if_true]
  split
  · rename_i cached _ hfound
    exact absurd (by rw [hfound]) (hmiss cached)
  · rename_i heq
    rw [heq]

/-- A miss stores the answer of the wrapped service if the policy allows it for a `GET` of `/`. -/
theorem calls_of_miss (service : CacheMiddlewareService σ κ ε) (s s' : σ) {req : Request} {k : κ}
    (hget : req.method = .get) (hmiss : service.Misses req k) {resp : Response}
    (hinner : ((service.inner.call s req).1 s').1 = .ok (.ok resp)) :
    ((service.call s req).1 s' k).calls = .get (service.cache.buildKey req) ::
      if service.cache.shouldCache newRequest resp.status.code then
        [.set (service.cache.buildKey req) (cachedOf resp)
          (fromSecs service.cache.config.defaultTtlSecs)] else [] := by
  rw [call_of_miss service s s' hget hmiss]
  rcases hans : (service.inner.call s req).1 s' with ⟨answer, s₁⟩
  obtain rfl : answer = .ok (.ok resp) := by rw [← hinner, hans]
  simp only [store]
  split
  · rfl
  · rfl

/-- **What the middleware stores.**  For a `GET` that the wrapped service answers, what is stored
is what the policy allows for that request exactly when the lookup hits, or the policy takes no
`GET` with this status at all, or its exclusions treat the request's path as they treat `/`. -/
theorem stores_iff_allowed_iff (service : CacheMiddlewareService σ κ ε) (s s' : σ) {req : Request}
    (k : κ) (hget : req.method = .get) {resp : Response}
    (hinner : ((service.inner.call s req).1 s').1 = .ok (.ok resp)) :
    service.StoresAllowed req resp.status.code k ((service.call s req).1 s' k).calls ↔
      ¬ service.Misses req k ∨ (service.cache.Takes .get resp.status.code →
        (service.cache.Excluded "/".toList ↔ service.cache.Excluded req.uri.path)) := by
  by_cases hmiss : service.Misses req k
  · have hroot : service.cache.shouldCache newRequest resp.status.code = true ↔
        service.cache.Takes .get resp.status.code ∧ ¬ service.cache.Excluded "/".toList :=
      shouldCache_iff service.cache newRequest _
    have hreq := shouldCache_iff service.cache req resp.status.code
    rw [hget] at hreq
    rw [calls_of_miss service s s' hget hmiss hinner, or_iff_right (not_not.mpr hmiss)]
    refine ⟨fun h htakes => ?_, fun h => ⟨?_, fun _ hallowed => ?_⟩⟩
    · by_cases hr : service.cache.shouldCache newRequest resp.status.code = true
      · rw [if_pos hr] at h
        have hstored := h.only _ _ _ (List.mem_cons_of_mem _ List.mem_cons_self)
        exact iff_of_false (hroot.mp hr).2 (hreq.mp hstored).2
      · refine iff_of_true (not_not.mp fun hn => hr (hroot.mpr ⟨htakes, hn⟩)) ?_
        refine not_not.mp fun hn => ?_
        obtain ⟨value, ttl, hmem⟩ := h.every hmiss (hreq.mpr ⟨htakes, hn⟩)
        rw [if_neg hr] at hmem
        cases List.mem_singleton.mp hmem
    · intro key value ttl hmem
      by_cases hr : service.cache.shouldCache newRequest resp.status.code = true
      · obtain ⟨htakes, hn⟩ := hroot.mp hr
        exact hreq.mpr ⟨htakes, fun hx => hn ((h htakes).mpr hx)⟩
      · rw [if_neg hr] at hmem
        cases List.mem_singleton.mp hmem
    · obtain ⟨htakes, hn⟩ := hreq.mp hallowed
      rw [if_pos (hroot.mpr ⟨htakes, fun hx => hn ((h htakes).mp hx)⟩)]
      exact ⟨_, _, List.mem_cons_of_mem _ List.mem_cons_self⟩
  · rw [calls_of_hit service s s' hget hmiss]
    refine iff_of_true ⟨fun _ _ _ hmem => ?_, fun hm => absurd hm hmiss⟩ (Or.inl hmiss)
    cases List.mem_singleton.mp hmem

/-- A service that answers every request with an empty `200`. -/
def emptyOk : AsyncService Unit Text where
  call s _ := (fun s => (.ok (.ok ⟨.ok, .empty, []⟩), s), s)

/-- `emptyOk` behind a cache with the exclusions. -/
def demoService (excludedPaths : List Text) :
    CacheMiddlewareService Unit (List (Text × CachedResponse)) Text :=
  ⟨emptyOk, demoCache excludedPaths⟩

theorem stores_allowed_users :
    .set "cache:GET:/api/users".toList ⟨200, [], []⟩ (fromSecs 300) ∈
        (((demoService ["/health".toList]).call () (Router.plainGet "/api/users")).1 () []).calls ∧
      (demoService ["/health".toList]).StoresAllowed (Router.plainGet "/api/users") 200 []
        (((demoService ["/health".toList]).call () (Router.plainGet "/api/users")).1 () []).calls := by
  refine ⟨by decide, ?_⟩
  have hinner : (((demoService ["/health".toList]).inner.call ()
      (Router.plainGet "/api/users")).1 ()).1 = .ok (.ok ⟨.ok, .empty, []⟩) := rfl
  refine (stores_iff_allowed_iff _ () () [] rfl hinner).mpr (Or.inr fun _ => iff_of_false ?_ ?_)
  · rw [excluded_iff]
    decide
  · rw [excluded_iff]
    decide

/-- The answer to a `GET` of an excluded path is stored. -/
theorem stores_excluded :
    (demoService ["/health".toList]).cache.shouldCache (Router.plainGet "/health") 200 = false ∧
      ¬ (demoService ["/health".toList]).StoresAllowed (Router.plainGet "/health") 200 []
        (((demoService ["/health".toList]).call () (Router.plainGet "/health")).1 () []).calls := by
  refine ⟨by decide, fun h => ?_⟩
  have hset := h.only "cache:GET:/health".toList ⟨200, [], []⟩ (fromSecs 300) (by decide)
  exact absurd hset (by decide)

end MiniGateway.CacheMiddlewareService
