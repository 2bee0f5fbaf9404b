import Mathlib.Data.Countable.Basic
import Mathlib.Logic.Equiv.List
import MiniGateway.Source.Backends

/-!
# Properties — Backends

The two cache backends over the same history of operations.  The memory backend answers as a store
that keeps its entries (`memory_results`), the Redis backend as one whose entries run out
(`redis_results`), so the two are interchangeable exactly where no `get` comes after the time to
live of what it asks for (`backends_agree_iff`).
-/

namespace MiniGateway

open Http Store

/-! ### Histories on a backend -/

/-- What an operation returns. -/
inductive CacheResult where
  | got (r : Except GatewayError (Option CachedResponse))
  | done (r : Except GatewayError Unit)

namespace CacheBackendTrait

variable {κ : Type}

/-- One operation; the lifetime of a `set` is its time to live. -/
def perform (B : CacheBackendTrait κ) (k : κ) : Op Text CachedResponse → CacheResult × κ
  | .get key => (.got (B.get k key).1, (B.get k key).2)
  | .set key value ttl => (.done (B.set k key value ttl).1, (B.set k key value ttl).2)
  | .delete key => (.done (B.delete k key).1, (B.delete k key).2)
  | .clear => (.done (B.clear k).1, (B.clear k).2)

/-- The results of a history, on a backend for each time. -/
def results (B : Nat → CacheBackendTrait κ) : κ → History Text CachedResponse → List CacheResult
  | _, [] => []
  | k, (t, op) :: history =>
      ((B t).perform k op).1 :: results B ((B t).perform k op).2 history

end CacheBackendTrait

/-- The result that stands for an answer of a store that works. -/
def resultOf : Option (Option CachedResponse) → CacheResult
  | some found => .got (.ok found)
  | none => .done (.ok ())

theorem resultOf_injective : Function.Injective resultOf := by
  intro a b h
  cases a <;> cases b <;> cases h <;> rfl

/-- The operation as it takes effect: a time to live counts in whole seconds. -/
def inSecs : Op Text CachedResponse → Op Text CachedResponse
  | .get key => .get key
  | .set key value ttl => .set key value (fromSecs (asSecs ttl))
  | .delete key => .delete key
  | .clear => .clear

/-- The history as it takes effect. -/
def effects (history : History Text CachedResponse) : History Text CachedResponse :=
  history.map fun e => (e.1, inSecs e.2)

/-- At no point of the history more entries are held than the capacity. -/
def WithinCapacity (n : Nat) (h : Held Text CachedResponse)
    (history : History Text CachedResponse) : Prop :=
  ∀ before rest, history = before ++ rest → Fits n (h.afterAll (effects before)).kept

theorem WithinCapacity.tail {n t : Nat} {h : Held Text CachedResponse}
    {op : Op Text CachedResponse} {history : History Text CachedResponse}
    (hcap : WithinCapacity n h ((t, op) :: history)) :
    WithinCapacity n (h.after t (inSecs op)) history := by
  intro before rest heq
  exact hcap ((t, op) :: before) rest (by rw [heq]; rfl)

/-! ### The memory backend -/

section Memory

variable {μ : Type} {B : Bounded μ Text CachedResponse} {capacity : μ → Nat}
  {contents : μ → Text → Option CachedResponse}

/-- **One operation of the memory backend**: it answers out of what is held, and holds on to it. -/
theorem memory_perform (hB : B.Documented capacity contents) {m : μ}
    {h : Held Text CachedResponse} (hm : contents m = h.kept) (t : Nat)
    {op : Op Text CachedResponse} (hfits : Fits (capacity m) (h.after t (inSecs op)).kept) :
    ((MemoryCache.backend B).perform m op).1 =
        resultOf (answer (fun h _ => h.kept) h t (inSecs op)) ∧
      capacity ((MemoryCache.backend B).perform m op).2 = capacity m ∧
      contents ((MemoryCache.backend B).perform m op).2 = (h.after t (inSecs op)).kept := by
  cases op with
  | get key =>
      obtain ⟨hget, hcap, hcont⟩ := hB.get m key
      refine ⟨?_, hcap, hcont.trans hm⟩
      show CacheResult.got (.ok (B.get m key).1) = .got (.ok (h.kept key))
      rw [hget, hm]
  | set key value ttl =>
      obtain ⟨hcap, hcont⟩ := hB.insert m key value
      rw [inSecs, Held.kept_set, ← hm] at hfits
      refine ⟨rfl, hcap, ?_⟩
      rw [inSecs, Held.kept_set, ← hm]
      exact hcont hfits
  | delete key =>
      obtain ⟨hcap, hcont⟩ := hB.invalidate m key
      refine ⟨rfl, hcap, ?_⟩
      rw [inSecs, Held.kept_delete, ← hm]
      exact hcont
  | clear =>
      obtain ⟨hcap, hcont⟩ := hB.invalidateAll m
      exact ⟨rfl, hcap, hcont⟩

/-- **The memory backend keeps its entries.** -/
theorem memory_results (hB : B.Documented capacity contents)
    (history : History Text CachedResponse) : ∀ {m : μ} {h : Held Text CachedResponse},
    contents m = h.kept → WithinCapacity (capacity m) h history →
    CacheBackendTrait.results (fun _ => MemoryCache.backend B) m history =
      (answers (fun h _ => h.kept) h (effects history)).map resultOf := by
  induction history with
  | nil => intro m h _ _; rfl
  | cons e history ih =>
      intro m h hm hcap
      obtain ⟨t, op⟩ := e
      obtain ⟨hres, hcapacity, hcont⟩ := memory_perform hB hm t (hcap [(t, op)] history rfl)
      have hrest := ih hcont (by rw [hcapacity]; exact hcap.tail)
      rw [CacheBackendTrait.results, hres, hrest]
      rfl

end Memory

/-! ### The Redis backend -/

section Redis

variable {σ : Type} {S : Expiring σ Text Bytes Text} {view : σ → Nat → Text → Option Bytes}
  {J : ResponseCodec} {enc : CachedResponse → Bytes}

/-- From the time `now` on, a read of the server finds what lives, encoded. -/
def Shows (view : σ → Nat → Text → Option Bytes) (enc : CachedResponse → Bytes) (now : Nat)
    (s : σ) (h : Held Text CachedResponse) : Prop :=
  ∀ t, now ≤ t → view s t = fun key => (h.live t key).map enc

theorem Shows.mono {now now' : Nat} {s s' : σ} {h : Held Text CachedResponse}
    (hs : Shows view enc now s h) (hle : now ≤ now')
    (hview : ∀ t, now' ≤ t → view s' t = view s t) : Shows view enc now' s' h :=
  fun t ht => (hview t ht).trans (hs t (Nat.le_trans hle ht))

/-- Connecting succeeds, and changes nothing a read could find. -/
theorem getConn_spec (hS : S.Documented (fromSecs 1) view) (now : Nat) (c : RedisCache σ) :
    ∃ c', RedisCache.getConn S now c = (.ok (), c') ∧
      ∀ t, now ≤ t → view c'.server t = view c.server t := by
  obtain ⟨hok, hview⟩ := hS.connect now c.server
  rw [RedisCache.getConn]
  cases c.conn with
  | true => exact ⟨c, rfl, fun t _ => rfl⟩
  | false =>
      rcases hc : S.connect now c.server with ⟨_ | _, s⟩
      · rw [hc] at hok
        cases hok
      · rw [hc] at hview
        exact ⟨⟨true, s⟩, rfl, hview⟩

/-- A command that the server carries out. -/
theorem command_spec (hS : S.Documented (fromSecs 1) view) (now : Nat) (c : RedisCache σ) {α : Type}
    (name : Text) (run : σ → Except Text α × σ) (hrun : ∀ s, ∃ a, (run s).1 = .ok a) :
    ∃ s, (∀ t, now ≤ t → view s t = view c.server t) ∧ ∃ a, (run s).1 = .ok a ∧
      RedisCache.command S now name run c = (.ok a, ⟨(RedisCache.getConn S now c).2.conn,
        (run s).2⟩) := by
  obtain ⟨c', hconn, hview⟩ := getConn_spec hS now c
  obtain ⟨a, ha⟩ := hrun c'.server
  refine ⟨c'.server, hview, a, ha, ?_⟩
  rw [RedisCache.command, hconn]
  rcases hr : run c'.server with ⟨_ | a', s⟩
  · rw [hr] at ha
    cases ha
  · rw [hr] at ha
    cases ha
    simp [hr]

/-- A `GET` of the Redis backend reads what lives. -/
theorem redis_get (hS : S.Documented (fromSecs 1) view)
    (henc : ∀ v, J.toVec v = .ok (enc v) ∧ J.fromSlice (enc v) = .ok v) {now t : Nat}
    (hle : now ≤ t) {c : RedisCache σ} {h : Held Text CachedResponse}
    (hs : Shows view enc now c.server h) (key : Text) :
    (RedisCache.get S J t c key).1 = .ok (h.live t key) ∧
      Shows view enc t (RedisCache.get S J t c key).2.server h := by
  obtain ⟨s, hview, a, ha, hcmd⟩ := command_spec hS t c "GET" (S.get t · key) fun s =>
    ⟨_, (hS.get t s key).1⟩
  have hs' : Shows view enc t s h := hs.mono hle hview
  have hshow : Shows view enc t (S.get t s key).2 h :=
    hs'.mono (Nat.le_refl t) (hS.get t s key).2
  -- the bytes that are found are those of the entry that lives
  have hfound : a = (h.live t key).map enc := by
    rw [(hS.get t s key).1, hs' t (Nat.le_refl t)] at ha
    exact (Except.ok.inj ha).symm
  rw [RedisCache.get, hcmd, hfound]
  cases h.live t key with
  | none => exact ⟨rfl, hshow⟩
  | some value =>
      simp only [Option.map_some, RedisCache.deserialize, (henc value).2]
      exact ⟨trivial, hshow⟩

/-- A `SET` of the Redis backend lets the value live for the whole seconds of its time to live. -/
theorem redis_set (hS : S.Documented (fromSecs 1) view)
    (henc : ∀ v, J.toVec v = .ok (enc v) ∧ J.fromSlice (enc v) = .ok v) {now t : Nat}
    (hle : now ≤ t) {c : RedisCache σ} {h : Held Text CachedResponse}
    (hs : Shows view enc now c.server h) (key : Text) (value : CachedResponse) {ttl : Nat}
    (httl : fromSecs 1 ≤ ttl) :
    (RedisCache.set S J t c key value ttl).1 = .ok () ∧
      Shows view enc t (RedisCache.set S J t c key value ttl).2.server
        (h.after t (.set key value (fromSecs (asSecs ttl)))) := by
  have hpos : 0 < asSecs ttl := Nat.div_pos httl (by decide)
  obtain ⟨c', hconn, hview⟩ := getConn_spec hS t c
  obtain ⟨s, hview', a, ha, hcmd⟩ := command_spec hS t c' "SET"
    (S.setEx t · key (enc value) (asSecs ttl)) fun s => ⟨_, (hS.setEx t s key _ _ hpos).1⟩
  have hs' : Shows view enc t s h :=
    (hs.mono hle hview).mono (Nat.le_refl t) hview'
  rw [RedisCache.set, hconn]
  simp only [(henc value).1, hcmd]
  refine ⟨trivial, fun t' ht' => ?_⟩
  rw [(hS.setEx t s key _ _ hpos).2 t' ht', hs' t' ht', Held.live_set]
  have hsecs : asSecs ttl * fromSecs 1 = fromSecs (asSecs ttl) := by
    rw [fromSecs, fromSecs, Nat.one_mul]
  have hmap := Function.comp_update (Option.map enc) (h.live t') key
    (if t' < t + fromSecs (asSecs ttl) then some value else none)
  rw [apply_ite (Option.map enc)] at hmap
  rw [hsecs]
  exact hmap.symm

/-- **One operation of the Redis backend**: it answers out of what lives. -/
theorem redis_perform (hS : S.Documented (fromSecs 1) view)
    (henc : ∀ v, J.toVec v = .ok (enc v) ∧ J.fromSlice (enc v) = .ok v) {now t : Nat}
    (hle : now ≤ t) {c : RedisCache σ} {h : Held Text CachedResponse}
    (hs : Shows view enc now c.server h) {op : Op Text CachedResponse}
    (httl : ∀ key value ttl, op = .set key value ttl → fromSecs 1 ≤ ttl) :
    ((RedisCache.backend S J t).perform c op).1 =
        resultOf (answer Held.live h t (inSecs op)) ∧
      Shows view enc t ((RedisCache.backend S J t).perform c op).2.server
        (h.after t (inSecs op)) := by
  cases op with
  | get key =>
      obtain ⟨hget, hshow⟩ := redis_get hS henc hle hs key
      exact ⟨congrArg CacheResult.got hget, hshow⟩
  | set key value ttl =>
      obtain ⟨hset, hshow⟩ := redis_set hS henc hle hs key value (httl key value ttl rfl)
      exact ⟨congrArg CacheResult.done hset, hshow⟩
  | delete key =>
      obtain ⟨s, hview, a, ha, hcmd⟩ := command_spec hS t c "DEL" (S.del t · key) fun s =>
        ⟨_, (hS.del t s key).1⟩
      have hs' : Shows view enc t s h := hs.mono hle hview
      simp only [CacheBackendTrait.perform, RedisCache.backend, hcmd]
      refine ⟨rfl, fun t' ht' => ?_⟩
      rw [(hS.del t s key).2 t' ht', hs' t' ht', inSecs, Held.live_delete]
      exact (Function.comp_update (Option.map enc) (h.live t') key none).symm
  | clear =>
      obtain ⟨s, -, a, ha, hcmd⟩ := command_spec hS t c "FLUSHDB" (S.flushDb t) fun s =>
        ⟨_, (hS.flushDb t s).1⟩
      simp only [CacheBackendTrait.perform, RedisCache.backend, hcmd]
      exact ⟨rfl, fun t' ht' => (hS.flushDb t s).2 t' ht'⟩

/-- **The entries of the Redis backend run out.** -/
theorem redis_results (hS : S.Documented (fromSecs 1) view)
    (henc : ∀ v, J.toVec v = .ok (enc v) ∧ J.fromSlice (enc v) = .ok v)
    (history : History Text CachedResponse) : ∀ {now : Nat} {c : RedisCache σ}
      {h : Held Text CachedResponse}, Shows view enc now c.server h →
    (now :: history.map (·.1)).Pairwise (· ≤ ·) →
    (∀ t key value ttl, (t, .set key value ttl) ∈ history → fromSecs 1 ≤ ttl) →
    CacheBackendTrait.results (RedisCache.backend S J) c history =
      (answers Held.live h (effects history)).map resultOf := by
  induction history with
  | nil => intro now c h _ _ _; rfl
  | cons e history ih =>
      intro now c h hs horder httl
      obtain ⟨t, op⟩ := e
      rw [List.map_cons, List.pairwise_cons] at horder
      have hop : ∀ key value ttl, op = .set key value ttl → fromSecs 1 ≤ ttl := by
        rintro key value ttl rfl
        exact httl t key value ttl List.mem_cons_self
      obtain ⟨hres, hshow⟩ := redis_perform hS henc (horder.1 t List.mem_cons_self) hs hop
      have hrest := ih hshow horder.2 fun t' key value ttl hmem =>
        httl t' key value ttl (List.mem_cons_of_mem _ hmem)
      rw [CacheBackendTrait.results, hres, hrest]
      rfl

end Redis

/-! ### The two of them -/

/-- **Where the backends are interchangeable.**  Over a history in the order of its times, with
lifetimes of a second at least, within the capacity of the memory cache and on a Redis that is up,
the two return the same results exactly if no `get` asks for an entry whose time to live, in whole
seconds, is over. -/
theorem backends_agree_iff {μ σ : Type} {B : Bounded μ Text CachedResponse} {capacity : μ → Nat}
    {contents : μ → Text → Option CachedResponse} (hB : B.Documented capacity contents)
    {S : Expiring σ Text Bytes Text} {view : σ → Nat → Text → Option Bytes}
    (hS : S.Documented (fromSecs 1) view) {J : ResponseCodec} (hJ : J.RoundTrips)
    (maxCapacity : Option Nat) {server : σ} (hserver : ∀ t, view server t = fun _ => none)
    {openUrl : Text → Except Text Unit} {url : Text} {c : RedisCache σ}
    (hopen : RedisCache.new openUrl url server = .ok c) (history : History Text CachedResponse)
    (horder : (history.map (·.1)).Pairwise (· ≤ ·))
    (httl : ∀ t key value ttl, (t, .set key value ttl) ∈ history → fromSecs 1 ≤ ttl)
    (hcap : WithinCapacity (maxCapacity.getD 10000) (fun _ => none) history) :
    CacheBackendTrait.results (fun _ => MemoryCache.backend B) (MemoryCache.new B maxCapacity)
        history = CacheBackendTrait.results (RedisCache.backend S J) c history ↔
      ∀ before t key rest, effects history = before ++ (t, .get key) :: rest →
        ¬ (Held.afterAll (fun _ => none) before).Stale t key := by
  choose enc henc using hJ
  have hempty : (Held.kept fun _ => none : Text → Option CachedResponse) = fun _ => none := rfl
  have hmemory := memory_results (m := MemoryCache.new B maxCapacity) hB history
    ((hB.build _).2.trans hempty.symm) (by rw [MemoryCache.new, (hB.build _).1]; exact hcap)
  have hc : c.server = server := by
    rw [RedisCache.new] at hopen
    split at hopen
    · cases hopen
      rfl
    · cases hopen
  have hshows : Shows view enc 0 c.server fun _ => none := by
    intro t _
    rw [hc, hserver]
    rfl
  have hredis := redis_results hS henc history hshows
    (List.pairwise_cons.mpr ⟨fun t _ => Nat.zero_le t, horder⟩) httl
  rw [hmemory, hredis, (List.map_injective_iff.mpr resultOf_injective).eq_iff, answers_eq_iff]
  rfl

/-! ### Backends to run -/

/-- A cache that never evicts: its capacity and its entries. -/
def mapCache : Bounded (Nat × (Text → Option CachedResponse)) Text CachedResponse where
  build n := (n, fun _ => none)
  get m key := (m.2 key, m)
  insert m key value := (m.1, Function.update m.2 key (some value))
  invalidate m key := (m.1, Function.update m.2 key none)
  invalidateAll m := (m.1, fun _ => none)

theorem mapCache_documented : mapCache.Documented Prod.fst Prod.snd where
  build _ := ⟨rfl, rfl⟩
  get _ _ := ⟨rfl, rfl, rfl⟩
  insert _ _ _ := ⟨rfl, fun _ => rfl⟩
  invalidate _ _ := ⟨rfl, rfl⟩
  invalidateAll _ := ⟨rfl, rfl⟩

/-- A server that writes down when each entry runs out, and refuses a lifetime of nothing. -/
def deadlineServer : Expiring (Held Text Bytes) Text Bytes Text where
  connect _ s := (.ok (), s)
  get t s key := (.ok (s.live t key), s)
  setEx t s key value n :=
    if n = 0 then (.error "ERR invalid expire time in 'setex' command", s)
    else (.ok (), s.after t (.set key value (n * fromSecs 1)))
  del t s key := (.ok (), s.after t (.delete key))
  flushDb _ _ := (.ok (), fun _ => none)

theorem deadlineServer_documented : deadlineServer.Documented (fromSecs 1) Held.live where
  connect _ _ := ⟨rfl, fun _ _ => rfl⟩
  get _ _ _ := ⟨rfl, fun _ _ => rfl⟩
  setEx t s key value n hn := by
    have hset : deadlineServer.setEx t s key value n =
        (.ok (), s.after t (.set key value (n * fromSecs 1))) := if_neg (Nat.ne_of_gt hn)
    rw [hset]
    exact ⟨rfl, fun t' _ => s.live_set t key value _ t'⟩
  del t s key := ⟨rfl, fun t' _ => s.live_delete t key t'⟩
  flushDb _ _ := ⟨rfl, fun _ _ => rfl⟩

/-- An empty 200. -/
def emptyOk : CachedResponse := ⟨200, [], []⟩

/-- `emptyOk` in JSON. -/
def emptyOkJson : Bytes := Text.utf8 "\x7b\"status\":200,\"headers\":[],\"body\":[]\x7d"

/-- There are countably many entries. -/
theorem exists_code : ∃ code : CachedResponse → Nat, Function.Injective code := by
  have hchar : Countable Char := Function.Injective.countable
    (f := Char.toNat) fun a b h => Char.toNat_inj.mp h
  have hbyte : Countable UInt8 := Function.Injective.countable
    (f := UInt8.toNat) fun a b h => UInt8.toNat_inj.mp h
  have hresponse : Countable CachedResponse := Function.Injective.countable
    (f := fun v : CachedResponse => (v.status, v.headers, v.body)) fun a b h => by
      cases a
      cases b
      cases h
      rfl
  exact Countable.exists_injective_nat CachedResponse

instance : Inhabited CachedResponse := ⟨emptyOk⟩

/-- An encoding that writes `emptyOk` as JSON does, and every other entry as its number. -/
noncomputable def numberCodec : ResponseCodec where
  toVec v := .ok (if v = emptyOk then emptyOkJson else 0 :: List.replicate (exists_code.choose v) 0)
  fromSlice bytes := .ok (if bytes = emptyOkJson then emptyOk
    else Function.invFun exists_code.choose (bytes.length - 1))

theorem numberCodec_roundTrips : numberCodec.RoundTrips := by
  intro v
  refine ⟨_, rfl, congrArg Except.ok ?_⟩
  by_cases hv : v = emptyOk
  · rw [if_pos hv, if_pos rfl, hv]
  · have hne : (0 :: List.replicate (exists_code.choose v) 0 : Bytes) ≠ emptyOkJson := by
      intro h
      have hhead : emptyOkJson.head? = some 123 := by decide
      rw [← h, List.head?_cons] at hhead
      exact absurd hhead (by decide)
    rw [if_neg hv, if_neg hne, List.length_cons, List.length_replicate, Nat.add_sub_cancel]
    exact Function.leftInverse_invFun exists_code.choose_spec v

/-- A URL that opens. -/
def anyUrl : Text → Except Text Unit := fun _ => .ok ()

def entryKey : Text := "cache:/a"

/-- An entry is set for a second and read again after the given time. -/
def setThenGet (after : Nat) : History Text CachedResponse :=
  [(0, .set entryKey emptyOk (fromSecs 1)), (after, .get entryKey)]

theorem setThenGet_withinCapacity (after : Nat) :
    WithinCapacity ((none : Option Nat).getD 10000) (fun _ => none) (setThenGet after) := by
  intro before rest heq
  refine ⟨[entryKey], by decide, fun key hkey => ?_⟩
  by_contra hne
  have hkey' : key ≠ entryKey := fun h => hne (List.mem_singleton.mpr h)
  refine hkey ?_
  rcases before with _ | ⟨e₁, _ | ⟨e₂, before⟩⟩
  · rfl
  · obtain ⟨rfl, -⟩ := List.cons.inj heq
    simp [effects, inSecs, Held.afterAll, Held.after, Held.kept, hkey']
  · obtain ⟨rfl, htail⟩ := List.cons.inj heq
    obtain ⟨rfl, hnil⟩ := List.cons.inj htail
    obtain ⟨rfl, -⟩ := List.append_eq_nil_iff.mp hnil.symm
    simp [effects, inSecs, Held.afterAll, Held.after, Held.kept, hkey']

/-- Read within its second, the entry is found in both. -/
theorem backends_agree_in_time :
    CacheBackendTrait.results (fun _ => MemoryCache.backend mapCache)
        (MemoryCache.new mapCache none) (setThenGet 500000000) =
      CacheBackendTrait.results (RedisCache.backend deadlineServer numberCodec)
        ⟨false, fun _ => none⟩ (setThenGet 500000000) := by
  refine (backends_agree_iff mapCache_documented deadlineServer_documented numberCodec_roundTrips
    none (fun _ => rfl) (show RedisCache.new anyUrl "redis://localhost" _ = _ from rfl)
    (setThenGet 500000000) (by decide) ?_ (setThenGet_withinCapacity _)).mpr ?_
  · intro t key value ttl hmem
    rcases List.mem_cons.mp hmem with h | h
    · cases h
      exact Nat.le_refl _
    · cases List.mem_singleton.mp h
  · intro before t key rest heq hstale
    rcases before with _ | ⟨e₁, before⟩
    · cases heq
    · obtain ⟨rfl, htail⟩ := List.cons.inj heq
      rcases before with _ | ⟨e₂, before⟩
      · cases htail
        obtain ⟨e, he, hle⟩ := hstale
        simp [inSecs, Held.afterAll, Held.after] at he
        subst he
        exact absurd hle (by decide)
      · exact absurd (List.cons.inj htail).2 (by simp)

/-- Read after its second, the entry is still found in the memory cache, and no more in Redis. -/
theorem backends_disagree :
    CacheBackendTrait.results (fun _ => MemoryCache.backend mapCache)
        (MemoryCache.new mapCache none) (setThenGet 1000000000) ≠
      CacheBackendTrait.results (RedisCache.backend deadlineServer numberCodec)
        ⟨false, fun _ => none⟩ (setThenGet 1000000000) := by
  intro h
  have hget := (List.cons.inj (List.cons.inj h).2).1
  cases hget

end MiniGateway
