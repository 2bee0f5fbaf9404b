import Mathlib.Data.List.Induction
import Mathlib.Logic.Function.Basic

/-!
# Support — Store

Key-value stores with lifetimes, over histories of timed operations.

`Held` is what a history has written and not taken back: under each key the value and the time it
runs out.  A store that keeps its entries reads `kept`, one that lets them run out reads `live`;
over a history the two give the same answers exactly when no read comes after the entry it reads
has run out (`answers_eq_iff`).

Two kinds of store are described by what their documentation says of them.

* `Bounded`: entries stay until they are invalidated, as long as there are no more of them than the
  capacity the store was built with.
* `Expiring`: a server that lets each entry run out after its lifetime.  `view s t k` is what a read
  of `k` at the time `t` finds, if nothing else is asked of the server before.
-/

namespace MiniGateway.Store

variable {K V : Type}

/-- An operation; the lifetime of a `set` is in the unit of the times. -/
inductive Op (K V : Type) where
  | get (k : K)
  | set (k : K) (v : V) (life : Nat)
  | delete (k : K)
  | clear

/-- A history, in order. -/
abbrev History (K V : Type) := List (Nat × Op K V)

/-- The values written and not taken back, each with the time it runs out. -/
abbrev Held (K V : Type) := K → Option (V × Nat)

namespace Held

/-- What is held after one more operation. -/
def after [DecidableEq K] (h : Held K V) (t : Nat) : Op K V → Held K V
  | .get _ => h
  | .set k v life => Function.update h k (some (v, t + life))
  | .delete k => Function.update h k none
  | .clear => fun _ => none

/-- What is held after a history. -/
def afterAll [DecidableEq K] (h : Held K V) (history : History K V) : Held K V :=
  history.foldl (fun h e => h.after e.1 e.2) h

/-- The value, whatever the time. -/
def kept (h : Held K V) (k : K) : Option V := (h k).map (·.1)

/-- The value, until it runs out. -/
def live (h : Held K V) (t : Nat) (k : K) : Option V :=
  (h k).bind fun e => if t < e.2 then some e.1 else none

/-- The entry of the key has run out. -/
def Stale (h : Held K V) (t : Nat) (k : K) : Prop := ∃ e, h k = some e ∧ e.2 ≤ t

theorem kept_eq_live_iff (h : Held K V) (t : Nat) (k : K) :
    h.kept k = h.live t k ↔ ¬ h.Stale t k := by
  rw [kept, live, Stale]
  cases h k with
  | none => simp
  | some e =>
      by_cases ht : t < e.2
      · simp [ht]
      · simp [ht, Nat.le_of_not_lt ht]

section Reads

variable [DecidableEq K] (h : Held K V) (t : Nat)

theorem kept_set (k : K) (v : V) (life : Nat) :
    (h.after t (.set k v life)).kept = Function.update h.kept k (some v) :=
  Function.comp_update (Option.map Prod.fst) h k (some (v, t + life))

theorem kept_delete (k : K) : (h.after t (.delete k)).kept = Function.update h.kept k none :=
  Function.comp_update (Option.map Prod.fst) h k none

theorem live_set (k : K) (v : V) (life t' : Nat) :
    (h.after t (.set k v life)).live t' =
      Function.update (h.live t') k (if t' < t + life then some v else none) :=
  Function.comp_update (fun e : Option (V × Nat) => e.bind fun e =>
    if t' < e.2 then some e.1 else none) h k (some (v, t + life))

theorem live_delete (k : K) (t' : Nat) :
    (h.after t (.delete k)).live t' = Function.update (h.live t') k none :=
  Function.comp_update (fun e : Option (V × Nat) => e.bind fun e =>
    if t' < e.2 then some e.1 else none) h k none

end Reads

end Held

/-! ### Answers -/

/-- The answer to an operation, by what a read of a key at a time finds in what is held; only a
read has one. -/
def answer (read : Held K V → Nat → K → Option V) (h : Held K V) (t : Nat) :
    Op K V → Option (Option V)
  | .get k => some (read h t k)
  | .set _ _ _ => none
  | .delete _ => none
  | .clear => none

/-- Two ways to read answer an operation alike, if it is no read or they find the same. -/
theorem answer_eq_iff (h : Held K V) (t : Nat) (op : Op K V) :
    answer (fun h _ => h.kept) h t op = answer Held.live h t op ↔
      ∀ k, op = .get k → ¬ h.Stale t k := by
  cases op with
  | get k =>
      rw [answer, answer, Option.some.injEq, h.kept_eq_live_iff]
      refine ⟨fun hs k' hk => ?_, fun hs => hs k rfl⟩
      cases hk
      exact hs
  | set k v life => exact iff_of_true rfl fun k' hk => by cases hk
  | delete k => exact iff_of_true rfl fun k' hk => by cases hk
  | clear => exact iff_of_true rfl fun k' hk => by cases hk

variable [DecidableEq K]

/-- The answers to a history. -/
def answers (read : Held K V → Nat → K → Option V) :
    Held K V → History K V → List (Option (Option V))
  | _, [] => []
  | h, (t, op) :: history => answer read h t op :: answers read (h.after t op) history

/-- No read of the history finds an entry that has run out. -/
def NoneStale (h : Held K V) (history : History K V) : Prop :=
  ∀ before t k rest, history = before ++ (t, .get k) :: rest → ¬ (h.afterAll before).Stale t k

theorem noneStale_nil (h : Held K V) : NoneStale h [] := by
  intro before t k rest heq
  exact absurd heq (by simp)

/-- The first operation, and the rest. -/
theorem noneStale_cons (h : Held K V) (t : Nat) (op : Op K V) (history : History K V) :
    NoneStale h ((t, op) :: history) ↔
      (∀ k, op = .get k → ¬ h.Stale t k) ∧ NoneStale (h.after t op) history := by
  refine ⟨fun hs => ⟨fun k hop => ?_, fun before t' k rest heq => ?_⟩, fun hs => ?_⟩
  · subst hop
    exact hs [] t k history rfl
  · exact hs ((t, op) :: before) t' k rest (by rw [heq]; rfl)
  · intro before t' k rest heq
    cases before with
    | nil =>
        cases heq
        exact hs.1 k rfl
    | cons e before =>
        obtain ⟨rfl, htail⟩ := List.cons.inj heq
        exact hs.2 before t' k rest htail

/-- **A store that keeps its entries and one that lets them run out answer alike** exactly when no
read finds an entry that has run out. -/
theorem answers_eq_iff (history : History K V) : ∀ h : Held K V,
    answers (fun h _ => h.kept) h history = answers Held.live h history ↔ NoneStale h history := by
  induction history with
  | nil => exact fun h => iff_of_true rfl (noneStale_nil h)
  | cons e history ih =>
      intro h
      rw [answers, answers, List.cons.injEq, answer_eq_iff, ih, noneStale_cons]

/-! ### Stores that keep their entries -/

/-- At most `n` keys have a value. -/
def Fits {α : Type} (n : Nat) (f : K → Option α) : Prop :=
  ∃ ks : List K, ks.length ≤ n ∧ ∀ k, f k ≠ none → k ∈ ks

/-- A store with a capacity, over its state. -/
structure Bounded (μ K V : Type) where
  build : Nat → μ
  get : μ → K → Option V × μ
  insert : μ → K → V → μ
  invalidate : μ → K → μ
  invalidateAll : μ → μ

/-- Entries stay until they are invalidated; none is evicted as long as all of them fit. -/
structure Bounded.Documented {μ : Type} (B : Bounded μ K V) (capacity : μ → Nat)
    (contents : μ → K → Option V) : Prop where
  build : ∀ n, capacity (B.build n) = n ∧ contents (B.build n) = fun _ => none
  get : ∀ m k, (B.get m k).1 = contents m k ∧ capacity (B.get m k).2 = capacity m ∧
    contents (B.get m k).2 = contents m
  insert : ∀ m k v, capacity (B.insert m k v) = capacity m ∧
    (Fits (capacity m) (Function.update (contents m) k (some v)) →
      contents (B.insert m k v) = Function.update (contents m) k (some v))
  invalidate : ∀ m k, capacity (B.invalidate m k) = capacity m ∧
    contents (B.invalidate m k) = Function.update (contents m) k none
  invalidateAll : ∀ m, capacity (B.invalidateAll m) = capacity m ∧
    contents (B.invalidateAll m) = fun _ => none

/-! ### Stores whose entries run out -/

/-- A server, over its state.  Each command is given the time, and can fail with an `ε`. -/
structure Expiring (σ K V ε : Type) where
  connect : Nat → σ → Except ε Unit × σ
  get : Nat → σ → K → Except ε (Option V) × σ
  setEx : Nat → σ → K → V → Nat → Except ε Unit × σ
  del : Nat → σ → K → Except ε Unit × σ
  flushDb : Nat → σ → Except ε Unit × σ

/-- The server is up, and an entry is read for as many seconds as it was set for.  What a read finds
at an earlier time than the last command's is left open. -/
structure Expiring.Documented {σ ε : Type} (S : Expiring σ K V ε) (second : Nat)
    (view : σ → Nat → K → Option V) : Prop where
  connect : ∀ t s, (S.connect t s).1 = .ok () ∧
    ∀ t', t ≤ t' → view (S.connect t s).2 t' = view s t'
  get : ∀ t s k, (S.get t s k).1 = .ok (view s t k) ∧
    ∀ t', t ≤ t' → view (S.get t s k).2 t' = view s t'
  setEx : ∀ t s k v n, 0 < n → (S.setEx t s k v n).1 = .ok () ∧
    ∀ t', t ≤ t' → view (S.setEx t s k v n).2 t' =
      Function.update (view s t') k (if t' < t + n * second then some v else none)
  del : ∀ t s k, (S.del t s k).1 = .ok () ∧
    ∀ t', t ≤ t' → view (S.del t s k).2 t' = Function.update (view s t') k none
  flushDb : ∀ t s, (S.flushDb t s).1 = .ok () ∧
    ∀ t', t ≤ t' → view (S.flushDb t s).2 t' = fun _ => none

end MiniGateway.Store
