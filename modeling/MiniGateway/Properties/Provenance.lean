import MiniGateway.Properties.Backends
import MiniGateway.Properties.Replay
import MiniGateway.Source.Services

/-!
# Properties — Provenance

Where the answers out of the cache come from, with many calls of `CacheMiddlewareService` at a time.

A backend is faithful if it holds only what was set in it; it may lose any of that at any time.
Both backends are (`memory_faithful`, `redis_faithful`).  Over a faithful backend every hit, in
every interleaving, is a response the wrapped service has given to a `GET` with the same key
(`hit_provenance`).  The steps of a call are `call`, cut in pieces (`finish_begin`, `finish_step`).
-/

namespace MiniGateway

open Http Tasks Store

/-! ### Faithful backends -/

/-- **It holds only what was set in it.**  `Holds` is what a read may find, now or later, and
`Fades` how the backend can change by itself. -/
structure CacheBackendTrait.Faithful {κ : Type} (B : CacheBackendTrait κ)
    (Holds : κ → Text → CachedResponse → Prop) (Fades : κ → κ → Prop) : Prop where
  found : ∀ {k key v}, (B.get k key).1 = .ok (some v) → Holds k key v
  get : ∀ {k key key' v}, Holds (B.get k key).2 key' v → Holds k key' v
  set : ∀ {k key v ttl key' v'}, Holds (B.set k key v ttl).2 key' v' →
    Holds k key' v' ∨ key' = key ∧ v' = v
  fades : ∀ {k k' key v}, Fades k k' → Holds k' key v → Holds k key v

/-- A cache library that may evict whatever it likes. -/
structure Store.Bounded.Evicting {μ K V : Type} [DecidableEq K] (B : Bounded μ K V)
    (contents : μ → K → Option V) : Prop where
  get : ∀ {m k v}, (B.get m k).1 = some v → contents m k = some v
  afterGet : ∀ {m k k' v}, contents (B.get m k).2 k' = some v → contents m k' = some v
  insert : ∀ {m k v k' v'}, contents (B.insert m k v) k' = some v' →
    contents m k' = some v' ∨ k' = k ∧ v' = v

/-- **The memory backend is faithful**, whatever the library evicts, and when. -/
theorem memory_faithful {μ : Type} {B : Bounded μ Text CachedResponse}
    {contents : μ → Text → Option CachedResponse} (hB : B.Evicting contents) :
    (MemoryCache.backend B).Faithful (fun m key v => contents m key = some v)
      fun m m' => ∀ key v, contents m' key = some v → contents m key = some v where
  found h := hB.get (Except.ok.inj h)
  get h := hB.afterGet h
  set h := hB.insert h
  fades hfades h := hfades _ _ h

/-- A server that may fail, and forget, but makes nothing up: `view s t k` is what a read of `k` at
the time `t` may find. -/
structure Store.Expiring.Honest {σ K V ε : Type} (S : Expiring σ K V ε)
    (view : σ → Nat → K → Option V) : Prop where
  connect : ∀ {t s t' k v}, t ≤ t' → view (S.connect t s).2 t' k = some v → view s t' k = some v
  get : ∀ {t s k v}, (S.get t s k).1 = .ok (some v) → view s t k = some v
  afterGet : ∀ {t s k t' k' v}, t ≤ t' → view (S.get t s k).2 t' k' = some v →
    view s t' k' = some v
  setEx : ∀ {t s k v n t' k' v'}, t ≤ t' → view (S.setEx t s k v n).2 t' k' = some v' →
    view s t' k' = some v' ∨ k' = k ∧ v' = v

namespace RedisCache

variable {σ : Type} {S : Expiring σ Text Bytes Text} {J : ResponseCodec}
  {view : σ → Nat → Text → Option Bytes}

/-- The Redis backend, with the clock in its state. -/
def clocked (S : Expiring σ Text Bytes Text) (J : ResponseCodec) :
    CacheBackendTrait (Nat × RedisCache σ) where
  get k key := ((get S J k.1 k.2 key).1, k.1, (get S J k.1 k.2 key).2)
  set k key v ttl := ((set S J k.1 k.2 key v ttl).1, k.1, (set S J k.1 k.2 key v ttl).2)
  delete k key :=
    (((backend S J k.1).delete k.2 key).1, k.1, ((backend S J k.1).delete k.2 key).2)
  clear k := (((backend S J k.1).clear k.2).1, k.1, ((backend S J k.1).clear k.2).2)

theorem getConn_view (hS : S.Honest view) (c : RedisCache σ) {now t : Nat} (ht : now ≤ t)
    {key : Text} {bytes : Bytes} (h : view (getConn S now c).2.server t key = some bytes) :
    view c.server t key = some bytes := by
  rw [getConn] at h
  split at h
  · exact h
  · split at h
    · rename_i s hc
      exact hS.connect ht (by rw [hc]; exact h)
    · rename_i e s hc
      exact hS.connect ht (by rw [hc]; exact h)

/-- A command sees the server as it is once there is a connection. -/
theorem command_server {α : Type} (S : Expiring σ Text Bytes Text) (name : Text)
    (run : σ → Except Text α × σ) (now : Nat) (c : RedisCache σ) :
    (command S now name run c).2.server = (getConn S now c).2.server ∨
      (command S now name run c).2.server = (run (getConn S now c).2.server).2 := by
  rw [command]
  split
  · rename_i e c' hc
    exact Or.inl (by rw [hc])
  · rename_i c' hc
    rw [hc]
    split
    · rename_i a s hrun
      exact Or.inr (by rw [hrun])
    · rename_i e s hrun
      exact Or.inr (by rw [hrun])

theorem command_ok {α : Type} {name : Text} {run : σ → Except Text α × σ} {now : Nat}
    {c : RedisCache σ} {a : α} (h : (command S now name run c).1 = .ok a) :
    (run (getConn S now c).2.server).1 = .ok a := by
  rw [command] at h
  split at h
  · cases h
  · rename_i c' hc
    rw [hc]
    split at h
    · rename_i a' s hrun
      rw [hrun]
      cases h
      rfl
    · cases h

/-- What a `get` finds is what the command finds, decoded. -/
theorem get_spec (now : Nat) (c : RedisCache σ) (key : Text) :
    (get S J now c key).2 = (command S now "GET" (S.get now · key) c).2 ∧
      ∀ v, (get S J now c key).1 = .ok (some v) →
        ∃ bytes, (command S now "GET" (S.get now · key) c).1 = .ok (some bytes) ∧
          J.fromSlice bytes = .ok v := by
  rw [get]
  rcases command S now "GET" (S.get now · key) c with ⟨_ | _ | bytes, c'⟩
  · exact ⟨rfl, fun v h => by cases h⟩
  · exact ⟨rfl, fun v h => by cases h⟩
  · simp only [deserialize]
    cases hJ : J.fromSlice bytes with
    | error e => exact ⟨rfl, fun v h => by cases h⟩
    | ok v => exact ⟨rfl, fun v' h => ⟨bytes, rfl, by cases h; exact hJ⟩⟩

/-- What a `set` leaves on the server is what a command leaves, or what connecting leaves. -/
theorem set_view (hS : S.Honest view) (c : RedisCache σ) {now t ttl : Nat} (ht : now ≤ t)
    {key key' : Text} {v : CachedResponse} {bytes : Bytes}
    (h : view (set S J now c key v ttl).2.server t key' = some bytes) :
    view c.server t key' = some bytes ∨ key' = key ∧ J.toVec v = .ok bytes := by
  rw [set] at h
  split at h
  · rename_i e c' hc
    exact Or.inl (getConn_view hS c ht (by rw [hc]; exact h))
  · rename_i c' hc
    have hconn : ∀ b, view c'.server t key' = some b → view c.server t key' = some b :=
      fun b hb => getConn_view hS c ht (by rw [hc]; exact hb)
    split at h
    · exact Or.inl (hconn bytes h)
    · rename_i data hdata
      rcases command_server S "SET" (S.setEx now · key data (asSecs ttl)) now c' with hsame | hset
      · rw [hsame] at h
        exact Or.inl (hconn bytes (getConn_view hS c' ht h))
      · rw [hset] at h
        rcases hS.setEx ht h with h | ⟨rfl, rfl⟩
        · exact Or.inl (hconn bytes (getConn_view hS c' ht h))
        · exact Or.inr ⟨rfl, hdata⟩

/-- **The Redis backend is faithful**, whatever fails and whatever the server forgets. -/
theorem redis_faithful (hS : S.Honest view) (hJ : J.RoundTrips) :
    (clocked S J).Faithful
      (fun k key v => ∃ t bytes, k.1 ≤ t ∧ view k.2.server t key = some bytes ∧
        J.fromSlice bytes = .ok v)
      fun k k' => k.1 ≤ k'.1 ∧ ∀ t key bytes, k'.1 ≤ t →
        view k'.2.server t key = some bytes → view k.2.server t key = some bytes where
  found {k key v} h := by
    obtain ⟨bytes, hcommand, hv⟩ := (get_spec k.1 k.2 key).2 v h
    exact ⟨k.1, bytes, Nat.le_refl _,
      getConn_view hS k.2 (Nat.le_refl _) (hS.get (command_ok hcommand)), hv⟩
  get {k key key' v} h := by
    obtain ⟨t, bytes, ht, hview, hv⟩ := h
    refine ⟨t, bytes, ht, ?_, hv⟩
    have hsnd : ((clocked S J).get k key).2.2 = _ := (get_spec k.1 k.2 key).1
    rw [hsnd] at hview
    rcases command_server S "GET" (S.get k.1 · key) k.1 k.2 with h | h
    · rw [h] at hview
      exact getConn_view hS k.2 ht hview
    · rw [h] at hview
      exact getConn_view hS k.2 ht (hS.afterGet ht hview)
  set {k key v ttl key' v'} h := by
    obtain ⟨t, bytes, ht, hview, hv⟩ := h
    rcases set_view hS k.2 ht hview with hview | ⟨rfl, hbytes⟩
    · exact Or.inl ⟨t, bytes, ht, hview, hv⟩
    · obtain ⟨bytes', hbytes', hback⟩ := hJ v
      rw [hbytes] at hbytes'
      cases hbytes'
      rw [hv] at hback
      exact Or.inr ⟨rfl, Except.ok.inj hback⟩
  fades hfades h := by
    obtain ⟨t, bytes, ht, hview, hv⟩ := h
    exact ⟨t, bytes, Nat.le_trans hfades.1 ht, hfades.2 t _ bytes ht hview, hv⟩

end RedisCache

namespace CacheMiddlewareService

variable {σ κ ε : Type} {service : CacheMiddlewareService σ κ ε}
  {Holds : κ → Text → CachedResponse → Prop} {Fades : κ → κ → Prop}

/-! ### The steps of a call -/

/-- What is left of a call, in one piece. -/
def finish (service : CacheMiddlewareService σ κ ε) (req : Request) (s : σ) (k : κ) :
    CacheStage σ ε → Except Panic (Except ε Response) × σ × κ
  | .passing future => ((future s).1, (future s).2, k)
  | .looking future =>
      match service.cache.backend.get k (service.cache.buildKey req) with
      | (.ok (some cached), k) => ((Gateway.hitReply cached).map .ok, s, k)
      | (_, k) =>
          let stored := store service.cache (service.cache.buildKey req) (future s) k
          (stored.reply, stored.inner, stored.cache)
  | .awaiting future =>
      let stored := store service.cache (service.cache.buildKey req) (future s) k
      (stored.reply, stored.inner, stored.cache)
  | .storing response => ((missReply response).map .ok, s,
      (service.cache.set k (service.cache.buildKey req) (cachedOf response)).2)
  | .answered _ reply => (reply, s, k)

/-- At the beginning, that is the call. -/
theorem finish_begin (s s' : σ) (k : κ) (req : Request) :
    service.finish req s' k (service.begin s req) =
      (((service.call s req).1 s' k).reply, ((service.call s req).1 s' k).inner,
        ((service.call s req).1 s' k).cache) := by
  rw [begin, call]
  by_cases hget : req.method = .get
  · simp only [hget, if_true, finish]
    rcases service.cache.backend.get k (service.cache.buildKey req) with ⟨_ | _ | cached, k'⟩ <;>
      rfl
  · simp only [hget, if_false, finish]

/-- **A step does the first part of what is left.** -/
theorem finish_step (req : Request) (s : σ) (k : κ) (stage : CacheStage σ ε) :
    service.finish req s k stage =
      service.finish req (service.advance req s k stage).2.1 (service.advance req s k stage).2.2
        (service.advance req s k stage).1 := by
  cases stage with
  | passing future => rfl
  | looking future =>
      simp only [finish, advance]
      rcases service.cache.backend.get k (service.cache.buildKey req) with ⟨_ | _ | cached, k'⟩ <;>
        rfl
  | awaiting future =>
      simp only [finish, advance, store]
      rcases future s with ⟨_ | _ | response, s'⟩
      · rfl
      · rfl
      · simp only
        split <;> rfl
  | storing response => rfl
  | answered fromCache reply => rfl

/-! ### In every interleaving -/

/-- The wrapped service has given `response` to a `GET` with the key, and it is to be stored. -/
def Given (service : CacheMiddlewareService σ κ ε) (w : CacheServer σ κ) (key : Text)
    (response : Response) : Prop :=
  ∃ req, (req, response) ∈ w.given ∧ req.method = .get ∧ service.cache.buildKey req = key ∧
    service.cache.shouldCache newRequest response.status.code = true

theorem Given.mono {w w' : CacheServer σ κ} {key : Text} {response : Response}
    (h : Given service w key response) (hsub : ∀ e ∈ w.given, e ∈ w'.given) :
    Given service w' key response := by
  obtain ⟨req, hmem, hget, hkey, hshould⟩ := h
  exact ⟨req, hsub _ hmem, hget, hkey, hshould⟩

/-- **The invariant of the cache**: what it holds was given. -/
def Sourced (service : CacheMiddlewareService σ κ ε) (Holds : κ → Text → CachedResponse → Prop)
    (w : CacheServer σ κ) : Prop :=
  ∀ key v, Holds w.cache key v → ∃ response, v = cachedOf response ∧ Given service w key response

/-- **The invariant of a call**: what it is about to store, and what it has found, was given; only
a `GET` looks anything up. -/
def Traced (service : CacheMiddlewareService σ κ ε) (w : CacheServer σ κ) (t : CacheTask σ ε) :
    Prop :=
  match t.stage with
  | .passing _ => True
  | .looking _ => t.request.method = .get
  | .awaiting _ => t.request.method = .get
  | .storing response => Given service w (service.cache.buildKey t.request) response
  | .answered (some v) reply => reply = (Gateway.hitReply v).map .ok ∧
      ∃ response, v = cachedOf response ∧
        Given service w (service.cache.buildKey t.request) response
  | .answered none _ => True

theorem Traced.mono {w w' : CacheServer σ κ} {t : CacheTask σ ε} (h : Traced service w t)
    (hsub : ∀ e ∈ w.given, e ∈ w'.given) : Traced service w' t := by
  obtain ⟨req, stage⟩ := t
  cases stage with
  | passing future => trivial
  | looking future => exact h
  | awaiting future => exact h
  | storing response => exact Given.mono h hsub
  | answered fromCache reply =>
      cases fromCache with
      | none => trivial
      | some v =>
          obtain ⟨hreply, response, hv, hgiven⟩ := h
          exact ⟨hreply, response, hv, hgiven.mono hsub⟩

theorem given_after (w : CacheServer σ κ) (t : CacheTask σ ε) :
    ∀ e ∈ w.given, e ∈ (service.after w t).given :=
  fun _ he => List.mem_append_left _ he

/-- A cache that holds no more than before. -/
theorem Sourced.mono {w w' : CacheServer σ κ} (hw : Sourced service Holds w)
    (hle : ∀ key v, Holds w'.cache key v → Holds w.cache key v)
    (hsub : ∀ e ∈ w.given, e ∈ w'.given) : Sourced service Holds w' := by
  intro key v hv
  obtain ⟨response, hresponse, hgiven⟩ := hw key v (hle key v hv)
  exact ⟨response, hresponse, hgiven.mono hsub⟩

/-- What is found was given. -/
theorem looking_traced (hB : service.cache.backend.Faithful Holds Fades) {w : CacheServer σ κ}
    {req : Request} {future : σ → Except Panic (Except ε Response) × σ}
    (hw : Sourced service Holds w) (hget : req.method = .get) :
    Sourced service Holds (service.after w ⟨req, .looking future⟩) ∧
      Traced service (service.after w ⟨req, .looking future⟩)
        ⟨req, (service.advance req w.inner w.cache (.looking future)).1⟩ := by
  have hcache : (service.after w ⟨req, .looking future⟩).cache =
      (service.cache.backend.get w.cache (service.cache.buildKey req)).2 := by
    simp only [after, advance]
    split <;> (rename_i heq; rw [heq])
  refine ⟨hw.mono (fun key v h => hB.get (hcache ▸ h)) (given_after _ _), ?_⟩
  rcases hread : service.cache.backend.get w.cache (service.cache.buildKey req) with
    ⟨_ | _ | v, k'⟩
  · simp only [advance, hread]
    exact hget
  · simp only [advance, hread]
    exact hget
  · simp only [advance, hread]
    obtain ⟨response, hv, hgiven⟩ := hw _ v (hB.found (by rw [hread]))
    exact ⟨rfl, response, hv, hgiven.mono (given_after _ _)⟩

/-- What is about to be stored was given. -/
theorem awaiting_traced {w : CacheServer σ κ} {req : Request}
    {future : σ → Except Panic (Except ε Response) × σ} (hw : Sourced service Holds w)
    (hget : req.method = .get) :
    Sourced service Holds (service.after w ⟨req, .awaiting future⟩) ∧
      Traced service (service.after w ⟨req, .awaiting future⟩)
        ⟨req, (service.advance req w.inner w.cache (.awaiting future)).1⟩ := by
  have hkeeps : Sourced service Holds (service.after w ⟨req, .awaiting future⟩) := by
    refine hw.mono (fun key v h => ?_) (given_after _ _)
    simp only [after, advance] at h
    split at h
    · exact h
    · exact h
    · split at h <;> exact h
  refine ⟨hkeeps, ?_⟩
  rcases hfuture : future w.inner with ⟨_ | _ | response, s'⟩
  · simp only [advance, hfuture]
    trivial
  · simp only [advance, hfuture]
    trivial
  · simp only [advance, hfuture]
    split
    · rename_i hshould
      refine ⟨req, List.mem_append_right _ ?_, hget, rfl, hshould⟩
      simp [answerOf, hfuture, Except.toOption]
    · trivial

/-- A step stores nothing but what was given, and finds nothing else. -/
theorem advance_traced (hB : service.cache.backend.Faithful Holds Fades) {w : CacheServer σ κ}
    {t : CacheTask σ ε} (hw : Sourced service Holds w) (ht : Traced service w t) :
    Sourced service Holds (service.after w t) ∧
      Traced service (service.after w t)
        { t with stage := (service.advance t.request w.inner w.cache t.stage).1 } := by
  obtain ⟨req, stage⟩ := t
  cases stage with
  | passing future => exact ⟨hw.mono (fun _ _ h => h) (given_after _ _), trivial⟩
  | looking future => exact looking_traced hB hw ht
  | awaiting future => exact awaiting_traced hw ht
  | storing response =>
      refine ⟨fun key v hv => ?_, trivial⟩
      rcases hB.set hv with hv | ⟨rfl, rfl⟩
      · obtain ⟨response', hv', hgiven⟩ := hw key v hv
        exact ⟨response', hv', hgiven.mono (given_after _ _)⟩
      · exact ⟨response, rfl, Given.mono ht (given_after _ _)⟩
  | answered fromCache reply =>
      exact ⟨hw.mono (fun _ _ h => h) (given_after _ _),
        Traced.mono (t := ⟨req, .answered fromCache reply⟩) ht (given_after _ _)⟩

theorem traced_keeps (hB : service.cache.backend.Faithful Holds Fades) :
    Keeps (service.system Fades) (Sourced service Holds) (Traced service) where
  moves {w t w' t'} hw ht hmove := by
    cases hmove with
    | advance =>
        obtain ⟨hw', ht'⟩ := advance_traced hB hw ht
        exact ⟨hw', fun u hu => by cases hu; exact ht', fun u hu => hu.mono (given_after w t)⟩
    | dropped => exact ⟨hw, fun u hu => (by cases hu), fun u hu => hu⟩
  starts {w w' t} hw hstart := by
    cases hstart with
    | call req =>
        refine ⟨hw, ?_, fun u hu => hu.mono fun _ he => he⟩
        by_cases hget : req.method = .get
        · simp only [Traced, begin, hget, if_true]
        · simp only [Traced, begin, hget, if_false]
  changes {w w'} hw hchange := by
    obtain ⟨hgiven, hfades⟩ := hchange
    have hsub : ∀ e ∈ w.given, e ∈ w'.given := by rw [hgiven]; exact fun _ he => he
    refine ⟨fun key v hv => ?_, fun u hu => hu.mono hsub⟩
    obtain ⟨response, hv, hgiven⟩ := hw key v (hB.fades hfades hv)
    exact ⟨response, hv, hgiven.mono hsub⟩

/-- **Every hit was given.**  In every interleaving of calls of the middleware over a faithful
backend that was empty at first — futures dropped anywhere, entries lost at any time — a request
that is answered out of the cache is answered with a response, and that is one the wrapped service
has given to a `GET` with the same key and that was to be stored, as it came but for the `x-cache`
header. -/
theorem hit_provenance (hB : service.cache.backend.Faithful Holds Fades) {s : σ} {k : κ}
    (hempty : ∀ key v, ¬ Holds k key v) {pool : Pool (CacheServer σ κ) (CacheTask σ ε)}
    (hr : Reachable (service.system Fades) ⟨s, k, []⟩ pool) {t : CacheTask σ ε}
    (ht : t ∈ pool.tasks) {v : CachedResponse} {reply : Except Panic (Except ε Response)}
    (hhit : t.stage = .answered (some v) reply) :
    ∃ response r, reply = .ok (.ok r) ∧ Replays Gateway.hitValue response r ∧
      Given service pool.shared (service.cache.buildKey t.request) response := by
  have hinit : Sourced service Holds ⟨s, k, []⟩ := fun key v hv => absurd hv (hempty key v)
  have htraced := (Reachable.keeps (traced_keeps hB) hinit hr).2 t ht
  rw [Traced, hhit] at htraced
  obtain ⟨hreply, response, rfl, hgiven⟩ := htraced
  obtain ⟨r, hhit', hreplays⟩ := hitReply_replays response
  refine ⟨response, r, ?_, hreplays, hgiven⟩
  rw [hreply, hhit']
  rfl

/-- A map evicts nothing. -/
theorem mapCache_evicting : mapCache.Evicting Prod.snd where
  get h := h
  afterGet h := h
  insert {m k v k' v'} h := by
    have hset : Function.update m.2 k (some v) k' = some v' := h
    by_cases hk : k' = k
    · subst hk
      rw [Function.update_self] at hset
      exact Or.inr ⟨rfl, (Option.some.inj hset).symm⟩
    · rw [Function.update_of_ne hk] at hset
      exact Or.inl hset

/-- The cookies, behind the memory backend. -/
def memoryService : CacheMiddlewareService Unit (Nat × (Text → Option CachedResponse)) Text :=
  ⟨cookieService.inner, ⟨MemoryCache.backend mapCache, CacheLayer.demoConfig []⟩⟩

/-- A step of the first call. -/
theorem reachable_advance {w₀ w : CacheServer σ κ} {t : CacheTask σ ε}
    {tasks : List (CacheTask σ ε)} (hr : Reachable (service.system Fades) w₀ ⟨w, t :: tasks⟩) :
    Reachable (service.system Fades) w₀ ⟨service.after w t,
      { t with stage := (service.advance t.request w.inner w.cache t.stage).1 } :: tasks⟩ :=
  hr.tail (Step.move (S := service.system Fades) [] tasks (Moves.advance t))

/-- The second request is answered out of the cache, with what the first was answered. -/
theorem hit_provenance_second : ∃ pool t v reply,
    Reachable (memoryService.system fun m m' => ∀ key v, m'.2 key = some v → m.2 key = some v)
      ⟨(), MemoryCache.new mapCache none, []⟩ pool ∧ t ∈ pool.tasks ∧
    t.stage = .answered (some v) reply ∧ v = cachedOf cookies ∧
    ∃ response r, reply = .ok (.ok r) ∧ Replays Gateway.hitValue response r ∧
      Given memoryService pool.shared (memoryService.cache.buildKey t.request) response := by
  let Fades := fun m m' : Nat × (Text → Option CachedResponse) =>
    ∀ key v, m'.2 key = some v → m.2 key = some v
  have hfirst : Reachable (memoryService.system Fades) ⟨(), MemoryCache.new mapCache none, []⟩
      ⟨⟨(), MemoryCache.new mapCache none, []⟩,
        [⟨Router.plainGet "/a", memoryService.begin () (Router.plainGet "/a")⟩]⟩ :=
    .single (.start [] (Starts.call (Router.plainGet "/a")))
  -- the lookup, the wrapped future, the store
  have hstored := reachable_advance (reachable_advance (reachable_advance hfirst))
  have hsecond := reachable_advance (hstored.tail
    (.start _ (Starts.call (Router.plainGet "/a"))))
  refine ⟨_, _, _, _, hsecond, List.mem_cons_self, rfl, rfl, ?_⟩
  exact hit_provenance (memory_faithful mapCache_evicting) (fun key v hv => by cases hv) hsecond
    List.mem_cons_self rfl

end CacheMiddlewareService

end MiniGateway
