import MiniGateway.Properties.CachePolicy
import MiniGateway.Properties.Caching
import MiniGateway.Properties.Exits
import MiniGateway.Properties.Unwraps

/-!
# Properties — Replay

What `CacheMiddlewareService` answers with, and what a hit does to the wrapped service.

* A response that is stored is answered with, and replayed from the store by the middleware and by
  `handle_request`, as it came, but for one more `x-cache` value (`replay_faithful`).
* The wrapped service is called before the lookup.  A hit leaves it alone exactly if its `call`
  does nothing to its state (`hit_untouched_iff`).
-/

namespace MiniGateway

open Http

/-! ### Building a response again -/

def missValue : HeaderValue := ⟨Text.utf8 "MISS", by decide⟩

/-- `r` is `response` with one more `x-cache` value. -/
structure Replays (value : HeaderValue) (response r : Response) : Prop where
  status : r.status = response.status
  body : r.body = response.body
  headers : ∀ n, n ≠ Gateway.cacheName → r.headers.getAll n = response.headers.getAll n
  cache : r.headers.getAll Gateway.cacheName =
    response.headers.getAll Gateway.cacheName ++ [value]

theorem Replays.of_append (value : HeaderValue) (response : Response) : Replays value response
    ⟨response.status, response.headers.append Gateway.cacheName value, response.body⟩ where
  status := rfl
  body := rfl
  headers n hn := by
    rw [HeaderMap.getAll_append, if_neg (Ne.symm hn), List.append_nil]
  cache := by
    rw [HeaderMap.getAll_append, if_pos rfl]

/-- The loops over a response's headers build it again. -/
theorem rebuild (value : HeaderValue) (response : Response) :
    unwrap (((response.headers.entries.foldl (fun b e => b.header e.1.text e.2.bytes)
        (Builder.new.status response.status.code)).header "X-Cache" value.bytes).body
          response.body) =
      .ok ⟨response.status, response.headers.append Gateway.cacheName value, response.body⟩ := by
  have hparts := Builder.header_foldl response.headers.entries (Builder.status_code response.status)
  have hname : HeaderName.parse "X-Cache" = some Gateway.cacheName := by decide
  rw [Builder.body, Builder.header_parts hparts hname value]
  rfl

namespace CacheMiddlewareService

/-- **A miss is answered with the response.** -/
theorem missReply_replays (response : Response) :
    ∃ r, missReply response = .ok r ∧ Replays missValue response r :=
  ⟨_, rebuild missValue response, .of_append missValue response⟩

/-- **A hit is answered with the response that was stored.** -/
theorem hitReply_replays (response : Response) :
    ∃ r, Gateway.hitReply (cachedOf response) = .ok r ∧
      Replays Gateway.hitValue response r := by
  refine ⟨_, ?_, .of_append Gateway.hitValue response⟩
  rw [Gateway.hitReply, cachedOf, List.foldl_map]
  exact rebuild Gateway.hitValue response

variable {σ κ ε : Type}

/-- What a call stores is the wrapped service's answer, and that is how it replies. -/
theorem reply_of_stored (service : CacheMiddlewareService σ κ ε) (s s' : σ) (k : κ) {req : Request}
    (hget : req.method = .get) {key : Text} {value : CachedResponse} {ttl : Nat}
    (hstored : .set key value ttl ∈ ((service.call s req).1 s' k).calls) :
    ∃ response, ((service.inner.call s req).1 s').1 = .ok (.ok response) ∧
      value = cachedOf response ∧
      ((service.call s req).1 s' k).reply = (missReply response).map .ok := by
  have hmiss : service.Misses req k := by
    by_contra hhit
    rw [calls_of_hit service s s' hget hhit] at hstored
    cases List.mem_singleton.mp hstored
  rw [call_of_miss service s s' hget hmiss] at hstored ⊢
  generalize (service.inner.call s req).1 s' = answer at hstored ⊢
  rcases answer with ⟨_ | _ | response, s₁⟩
  · cases List.mem_singleton.mp hstored
  · cases List.mem_singleton.mp hstored
  · refine ⟨response, rfl, ?_⟩
    simp only [store] at hstored ⊢
    split at hstored
    · rename_i hshould
      rw [if_pos hshould]
      rcases List.mem_cons.mp hstored with h | h
      · cases h
      · cases List.mem_singleton.mp h
        exact ⟨rfl, rfl⟩
    · cases List.mem_singleton.mp hstored

/-- The answer out of the cache. -/
theorem reply_of_hit (service : CacheMiddlewareService σ κ ε) (s s' : σ) {k : κ} {req : Request}
    (hget : req.method = .get) {cached : CachedResponse}
    (hhit : (service.cache.backend.get k (service.cache.buildKey req)).1 = .ok (some cached)) :
    ((service.call s req).1 s' k).reply = (Gateway.hitReply cached).map .ok ∧
      ((service.call s req).1 s' k).inner = s' := by
  rcases hread : service.cache.backend.get k (service.cache.buildKey req) with ⟨found, k'⟩
  obtain rfl : found = .ok (some cached) := by rw [← hhit, hread]
  simp only [call, hget, if_true, hread, and_self]

/-! ### Replay -/

/-- **A response is replayed as it came.**  Whatever the middleware stores for a `GET` is the
wrapped service's response; this request is answered with that response and `MISS`, and a later one
with the same key, if the backend has the value, with that response and `HIT`.  So is a request
that `handle_request` finds the value for. -/
theorem replay_faithful (service : CacheMiddlewareService σ κ ε) (s s' : σ) (k : κ) {req : Request}
    (hget : req.method = .get) {value : CachedResponse} {ttl : Nat}
    (hstored : .set (service.cache.buildKey req) value ttl ∈
      ((service.call s req).1 s' k).calls) :
    ∃ response, ((service.inner.call s req).1 s').1 = .ok (.ok response) ∧
      (∃ r, ((service.call s req).1 s' k).reply = .ok (.ok r) ∧ Replays missValue response r) ∧
      (∀ (later : Request) (t t' : σ) (k' : κ), later.method = .get →
        service.cache.buildKey later = service.cache.buildKey req →
        (service.cache.backend.get k' (service.cache.buildKey req)).1 = .ok (some value) →
        ∃ r, ((service.call t later).1 t' k').reply = .ok (.ok r) ∧
          Replays Gateway.hitValue response r) ∧
      ∀ {ρ lim υ δ : Type} (L : Libraries ρ lim κ υ δ) (g : Gateway ρ lim κ υ δ) (later : Request)
        (client : SocketAddr) (id : Text) (w : World lim κ υ δ) (metrics : RequestMetrics),
        g.exit L later id w = .hit metrics value →
        ∃ r, (g.handleRequest L later client id w).reply = .ok r ∧
          Replays Gateway.hitValue response r := by
  obtain ⟨response, hinner, rfl, hreply⟩ := reply_of_stored service s s' k hget hstored
  obtain ⟨hit, hhit, hreplays⟩ := hitReply_replays response
  refine ⟨response, hinner, ?_, fun later t t' k' hlater hkey hfound => ⟨hit, ?_, hreplays⟩,
    fun L g later client id w metrics hexit => ⟨hit, ?_, hreplays⟩⟩
  · obtain ⟨r, hr, hmiss⟩ := missReply_replays response
    refine ⟨r, ?_, hmiss⟩
    rw [hreply, hr]
    rfl
  · rw [← hkey] at hfound
    rw [(reply_of_hit service t t' hlater hfound).1, hhit]
    rfl
  · rw [(Gateway.handleRequest_exit L g later client id w).reply, hexit]
    exact hhit

def setCookie : HeaderName := ⟨"set-cookie", by decide⟩
def firstCookie : HeaderValue := ⟨Text.utf8 "a=1", by decide⟩
def secondCookie : HeaderValue := ⟨Text.utf8 "b=2", by decide⟩

/-- A response that sets two cookies. -/
def cookies : Response := ⟨.ok, ⟨[(setCookie, firstCookie), (setCookie, secondCookie)]⟩, []⟩

/-- A service that answers with it, behind a cache. -/
def cookieService : CacheMiddlewareService Unit (List (Text × CachedResponse)) Text :=
  ⟨⟨fun s _ => (fun s => (.ok (.ok cookies), s), s)⟩, CacheLayer.demoCache []⟩

/-- Both cookies come, out of the cache too. -/
theorem cookies_replayed :
    (∃ r, ((cookieService.call () (Router.plainGet "/a")).1 () []).reply = .ok (.ok r) ∧
      r.headers.getAll setCookie = [firstCookie, secondCookie]) ∧
    ∃ r, ((cookieService.call () (Router.plainGet "/a")).1 ()
        ((cookieService.call () (Router.plainGet "/a")).1 () []).cache).reply = .ok (.ok r) ∧
      r.headers.getAll setCookie = [firstCookie, secondCookie] := by
  have hget : (Router.plainGet "/a").method = .get := rfl
  have hstored : .set (cookieService.cache.buildKey (Router.plainGet "/a")) (cachedOf cookies)
      (fromSecs 300) ∈ ((cookieService.call () (Router.plainGet "/a")).1 () []).calls := by decide
  obtain ⟨response, hinner, ⟨r, hr, hmiss⟩, hhit, -⟩ :=
    replay_faithful cookieService () () [] hget hstored
  cases hinner
  refine ⟨⟨r, hr, hmiss.headers setCookie (by decide)⟩, ?_⟩
  obtain ⟨r', hr', hreplays⟩ := hhit (Router.plainGet "/a") () ()
    ((cookieService.call () (Router.plainGet "/a")).1 () []).cache rfl rfl rfl
  exact ⟨r', hr', hreplays.headers setCookie (by decide)⟩

/-! ### A hit and the wrapped service -/

/-- The wrapped service is as it was, and the reply is what is cached, with `x-cache: HIT`. -/
def LeavesInner (service : CacheMiddlewareService σ κ ε) (s : σ) (k : κ) (req : Request)
    (cached : CachedResponse) : Prop :=
  ((service.call s req).1 (service.call s req).2 k).inner = s ∧
    ∃ r, ((service.call s req).1 (service.call s req).2 k).reply = .ok (.ok r) ∧
      cached.Repeated r

/-- **A hit leaves the wrapped service alone exactly if its `call` does nothing to its state**; and
it gives the cached response exactly if that is a legal one. -/
theorem hit_untouched_iff (service : CacheMiddlewareService σ κ ε) (s : σ) {k : κ} {req : Request}
    (hget : req.method = .get) {cached : CachedResponse}
    (hhit : (service.cache.backend.get k (service.cache.buildKey req)).1 = .ok (some cached)) :
    service.LeavesInner s k req cached ↔ (service.inner.call s req).2 = s ∧ cached.Legal := by
  obtain ⟨hreply, hinner⟩ := reply_of_hit service s (service.call s req).2 hget hhit
  have hcalled : (service.call s req).2 = (service.inner.call s req).2 := by
    simp only [call, hget, if_true]
  rw [LeavesInner, hreply, hinner, hcalled, ← Gateway.hitReply_ok_iff]
  refine and_congr_right fun _ => exists_congr fun r => ⟨fun h => ?_, fun hr => ⟨?_, ?_⟩⟩
  · have hr := h.1
    cases hhit : Gateway.hitReply cached with
    | ok r' =>
        rw [hhit] at hr
        cases hr
        rfl
    | error panic =>
        rw [hhit] at hr
        cases hr
  · rw [hr]
    rfl
  · exact Gateway.hitReply_repeated hr

/-- A service that counts its answers when they are awaited. -/
def counting : AsyncService Nat Text where
  call n _ := (fun n => (.ok (.ok ⟨.ok, .empty, []⟩), n + 1), n)

/-- What a cache holds that has answered `/a` once. -/
def holding : List (Text × CachedResponse) := [("cache:GET:/a".toList, ⟨200, [], []⟩)]

theorem counting_untouched :
    (⟨counting, CacheLayer.demoCache []⟩ : CacheMiddlewareService Nat _ Text).LeavesInner 5 holding
      (Router.plainGet "/a") ⟨200, [], []⟩ :=
  (hit_untouched_iff (⟨counting, CacheLayer.demoCache []⟩ : CacheMiddlewareService Nat _ Text) 5
    (show (Router.plainGet "/a").method = .get from rfl) rfl).mpr
      ⟨rfl, by decide, fun _ he => absurd he List.not_mem_nil⟩

/-- A limiter of one request a second, in front of a service. -/
def limitedService : RateLimitService (Text → Nat) Unit Text :=
  ⟨emptyOk, RateLimit.gcra (RateLimitLayer.quota 1 1), .global⟩

/-- A cache in front of it. -/
def limitedCache :
    CacheMiddlewareService ((Text → Nat) × Unit) (List (Text × CachedResponse)) Text :=
  ⟨limitedService.service 0, CacheLayer.demoCache []⟩

/-- A hit is charged to the limiter behind the cache, which then refuses the next request. -/
theorem hit_charged :
    (limitedCache.cache.backend.get holding
        (limitedCache.cache.buildKey (Router.plainGet "/a"))).1 = .ok (some ⟨200, [], []⟩) ∧
      (limitedService.limiter.checkKey
        (limitedCache.call (fun _ => 0, ()) (Router.plainGet "/a")).2.1 "global" 0).1 = false ∧
      ¬ limitedCache.LeavesInner (fun _ => 0, ()) holding (Router.plainGet "/a")
        ⟨200, [], []⟩ := by
  refine ⟨rfl, by decide, fun h => ?_⟩
  have hcell := congrFun (congrArg Prod.fst h.1) "global".toList
  exact absurd hcell (by decide)

end CacheMiddlewareService

end MiniGateway
