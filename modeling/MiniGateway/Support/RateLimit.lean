import Mathlib.Data.List.Induction
import MiniGateway.Support.Text

/-!
# Support — RateLimit

Keyed rate limiters.  A limiter checks one key at a time, at the time of the call in
nanoseconds, and answers whether the call is admitted.

* `KeyedLimiter.Independent`: a check's answer is a function `verdict` of the times of the earlier
  checks of its own key and of its own time — keys do not influence each other.
* `Bounded`: along any non-decreasing sequence of checks of one key, at most `burst + rate · T` of
  those made in a window of length `T` are admitted.
* `KeyedLimiter.Documented`: some verdict is both.

`gcra` is the generic cell rate algorithm over a map of keys, and meets both
(`gcra_documented`): it keeps for each key the time at which the next call would be due if calls
came evenly, and admits a call that is at most `burst - 1` intervals early.
-/

namespace MiniGateway.RateLimit

/-- Calls a second, and calls at once. -/
structure Quota where
  rate : Nat
  burst : Nat
  rate_pos : 0 < rate
  burst_pos : 0 < burst

/-- Nanoseconds in a second. -/
def nanos : Nat := 1000000000

/-- A limiter over the state `σ`. -/
structure KeyedLimiter (σ : Type) where
  fresh : σ
  checkKey : σ → Text → Nat → Bool × σ

namespace KeyedLimiter

variable {σ : Type}

/-- The state after a sequence of checks. -/
def after (L : KeyedLimiter σ) (calls : List (Text × Nat)) : σ :=
  calls.foldl (fun s c => (L.checkKey s c.1 c.2).2) L.fresh

theorem after_append (L : KeyedLimiter σ) (calls : List (Text × Nat)) (k : Text) (t : Nat) :
    L.after (calls ++ [(k, t)]) = (L.checkKey (L.after calls) k t).2 := by
  simp [after]

end KeyedLimiter

/-- The times of the checks of `k`. -/
def timesOf (calls : List (Text × Nat)) (k : Text) : List Nat :=
  calls.filterMap fun c => if c.1 = k then some c.2 else none

theorem timesOf_append (calls calls' : List (Text × Nat)) (k : Text) :
    timesOf (calls ++ calls') k = timesOf calls k ++ timesOf calls' k := List.filterMap_append

/-- Those of the checks at `ts` that `verdict` admits, when the checks at `past` came before. -/
def admitted (verdict : List Nat → Nat → Bool) : List Nat → List Nat → List Nat
  | _, [] => []
  | past, t :: ts => (if verdict past t then [t] else []) ++ admitted verdict (past ++ [t]) ts

theorem admitted_append (verdict : List Nat → Nat → Bool) (past ts ts' : List Nat) :
    admitted verdict past (ts ++ ts') =
      admitted verdict past ts ++ admitted verdict (past ++ ts) ts' := by
  induction ts generalizing past with
  | nil => simp [admitted]
  | cons t ts ih => simp [admitted, ih, List.append_assoc]

/-- How many of the times lie in the window of length `T` from `s` on. -/
def inWindow (s T : Nat) (ts : List Nat) : Nat := ts.countP fun t => s ≤ t ∧ t ≤ s + T

/-- The answer of a check depends on the earlier checks of its key and on its time. -/
def KeyedLimiter.Independent {σ : Type} (L : KeyedLimiter σ) (verdict : List Nat → Nat → Bool) :
    Prop :=
  ∀ calls k t, (L.checkKey (L.after calls) k t).1 = verdict (timesOf calls k) t

/-- At most `burst + rate · T` checks are admitted in a window of length `T`. -/
def Bounded (q : Quota) (verdict : List Nat → Nat → Bool) : Prop :=
  ∀ ts : List Nat, ts.Pairwise (· ≤ ·) → ∀ s T,
    inWindow s T (admitted verdict [] ts) * nanos ≤ q.burst * nanos + q.rate * T

/-- What a limiter of quota `q` documents. -/
def KeyedLimiter.Documented {σ : Type} (L : KeyedLimiter σ) (q : Quota) : Prop :=
  ∃ verdict, L.Independent verdict ∧ Bounded q verdict

/-! ### The generic cell rate algorithm

Time is counted in `rate`ths of a nanosecond, so that the interval between two calls is `nanos`
whatever the rate. -/

/-- One check of a cell: is the call at `t` admitted, and when is the next one due? -/
def cell (q : Quota) (due t : Nat) : Bool × Nat :=
  if due ≤ t * q.rate + (q.burst - 1) * nanos then (true, max due (t * q.rate) + nanos)
  else (false, due)

/-- The cell after the checks at `ts`. -/
def cellAfter (q : Quota) (ts : List Nat) : Nat := ts.foldl (fun due t => (cell q due t).2) 0

theorem cellAfter_append (q : Quota) (ts : List Nat) (t : Nat) :
    cellAfter q (ts ++ [t]) = (cell q (cellAfter q ts) t).2 := by
  simp [cellAfter]

/-- A cell for each key. -/
def gcra (q : Quota) : KeyedLimiter (Text → Nat) where
  fresh := fun _ => 0
  checkKey cells k t := ((cell q (cells k) t).1, Function.update cells k (cell q (cells k) t).2)

/-- The answer of a cell with a past. -/
def gcraVerdict (q : Quota) (past : List Nat) (t : Nat) : Bool := (cell q (cellAfter q past) t).1

theorem gcra_after (q : Quota) (calls : List (Text × Nat)) (k : Text) :
    (gcra q).after calls k = cellAfter q (timesOf calls k) := by
  induction calls using List.reverseRecOn with
  | nil => rfl
  | append_singleton calls c ih =>
      rw [KeyedLimiter.after_append, timesOf_append]
      by_cases h : c.1 = k
      · have ht : timesOf [c] k = [c.2] := by simp [timesOf, h]
        rw [ht, cellAfter_append, ← ih]
        simp [gcra, h]
      · have ht : timesOf [c] k = [] := by simp [timesOf, h]
        rw [ht, List.append_nil, ← ih]
        exact Function.update_of_ne (Ne.symm h) _ _

theorem gcra_independent (q : Quota) : (gcra q).Independent (gcraVerdict q) := by
  intro calls k t
  show (cell q ((gcra q).after calls k) t).1 = _
  rw [gcra_after]
  rfl

theorem le_cell (q : Quota) (due t : Nat) : due ≤ (cell q due t).2 := by
  unfold cell
  split
  · show due ≤ max due (t * q.rate) + nanos; omega
  · exact Nat.le_refl due

/-- An admitted call is at most `burst - 1` intervals early, and pushes the due time one
interval ahead. -/
theorem cell_admits {q : Quota} {due t : Nat} (h : (cell q due t).1 = true) :
    due ≤ t * q.rate + (q.burst - 1) * nanos ∧ (cell q due t).2 = max due (t * q.rate) + nanos := by
  unfold cell at h ⊢
  split at h
  · rename_i hle
    exact ⟨hle, by rw [if_pos hle]⟩
  · cases h

theorem inWindow_append (s T : Nat) (ts ts' : List Nat) :
    inWindow s T (ts ++ ts') = inWindow s T ts + inWindow s T ts' := List.countP_append

/-- The window count goes up by one at an admitted call of the window, and only there. -/
theorem inWindow_admitted_snoc (verdict : List Nat → Nat → Bool) (s T : Nat) (ts : List Nat)
    (t : Nat) : inWindow s T (admitted verdict [] (ts ++ [t])) =
      inWindow s T (admitted verdict [] ts) +
        if verdict ts t = true ∧ s ≤ t ∧ t ≤ s + T then 1 else 0 := by
  rw [admitted_append, inWindow_append, List.nil_append, admitted, admitted, List.append_nil]
  by_cases hv : verdict ts t = true
  · by_cases hw : s ≤ t ∧ t ≤ s + T <;> simp [hv, hw, inWindow]
  · simp [hv, inWindow]

/-- **The calls of a window fit into the window and the burst.**  Calls admitted from `s` on push
the due time ahead, one interval each; and none is admitted too early. -/
theorem gcra_window (q : Quota) (s T : Nat) (ts : List Nat) :
    (inWindow s T (admitted (gcraVerdict q) [] ts) = 0 ∨
      s * q.rate + inWindow s T (admitted (gcraVerdict q) [] ts) * nanos ≤ cellAfter q ts) ∧
    inWindow s T (admitted (gcraVerdict q) [] ts) * nanos ≤ q.burst * nanos + q.rate * T := by
  induction ts using List.reverseRecOn with
  | nil => simp [admitted, inWindow]
  | append_singleton ts t ih =>
      obtain ⟨hdue, hbound⟩ := ih
      rw [inWindow_admitted_snoc, cellAfter_append]
      generalize inWindow s T (admitted (gcraVerdict q) [] ts) = n at hdue hbound ⊢
      split
      · rename_i h
        obtain ⟨hv, hs, hT⟩ := h
        obtain ⟨hearly, hnext⟩ := cell_admits hv
        have hs' : s * q.rate ≤ t * q.rate := Nat.mul_le_mul_right _ hs
        have hT' : t * q.rate ≤ s * q.rate + q.rate * T := by
          calc t * q.rate ≤ (s + T) * q.rate := Nat.mul_le_mul_right _ hT
            _ = s * q.rate + q.rate * T := by rw [Nat.add_mul, Nat.mul_comm T]
        have hburst : (q.burst - 1) * nanos + nanos = q.burst * nanos := by
          rw [← Nat.succ_mul, Nat.succ_eq_add_one, Nat.sub_add_cancel q.burst_pos]
        rw [hnext, Nat.add_mul, Nat.one_mul]
        -- the first call of the window counts from `t`, a later one from the due time
        rcases hdue with rfl | hdue
        · exact ⟨Or.inr (by omega), by omega⟩
        · exact ⟨Or.inr (by omega), by omega⟩
      · have hmono := le_cell q (cellAfter q ts) t
        exact ⟨hdue.imp id fun h => Nat.le_trans h hmono, hbound⟩

theorem gcra_documented (q : Quota) : (gcra q).Documented q :=
  ⟨gcraVerdict q, gcra_independent q, fun ts _ s T => (gcra_window q s T ts).2⟩

end MiniGateway.RateLimit
