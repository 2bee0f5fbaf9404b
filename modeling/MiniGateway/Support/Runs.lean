import Mathlib.Data.List.Basic

/-!
# Support — Runs

Runs of a machine that takes one action after the other.  `Along step P s run` says that `P` holds
of every action of the run, in the state that action finds.

Two predicates that agree in the states of an invariant, which both keep, hold along the same
runs (`along_congr`): an exact condition for one step is one for whole runs.
-/

namespace MiniGateway.Runs

variable {σ α : Type} {step : σ → α → σ} {P Q : σ → α → Prop} {Inv : σ → Prop}

/-- `P` holds of each action of the run, in the state the action finds. -/
def Along (step : σ → α → σ) (P : σ → α → Prop) : σ → List α → Prop
  | _, [] => True
  | s, a :: run => P s a ∧ Along step P (step s a) run

/-- One more action. -/
theorem along_concat_iff {s : σ} {run : List α} {a : α} :
    Along step P s (run ++ [a]) ↔ Along step P s run ∧ P (run.foldl step s) a := by
  induction run generalizing s with
  | nil => exact ⟨fun h => ⟨trivial, h.1⟩, fun h => ⟨h.2, trivial⟩⟩
  | cons b run ih => rw [List.cons_append, Along, ih, Along, List.foldl_cons, and_assoc]

/-- An invariant that an action keeps where `P` holds of it. -/
theorem Along.foldl (hkeep : ∀ s a, Inv s → P s a → Inv (step s a)) {s : σ} (hs : Inv s)
    {run : List α} (h : Along step P s run) : Inv (run.foldl step s) := by
  induction run generalizing s with
  | nil => exact hs
  | cons a run ih => exact ih (hkeep s a hs h.1) h.2

/-- What `P` gives in the states of an invariant it keeps, it gives along runs. -/
theorem Along.mono (himp : ∀ s a, Inv s → P s a → Q s a)
    (hkeep : ∀ s a, Inv s → P s a → Inv (step s a)) {s : σ} (hs : Inv s) {run : List α}
    (h : Along step P s run) : Along step Q s run := by
  induction run generalizing s with
  | nil => trivial
  | cons a run ih => exact ⟨himp s a hs h.1, ih (hkeep s a hs h.1) h.2⟩

/-- **Agreement along runs.** -/
theorem along_congr (hiff : ∀ s a, Inv s → (P s a ↔ Q s a))
    (hkeep : ∀ s a, Inv s → P s a → Inv (step s a)) {s : σ} (hs : Inv s) (run : List α) :
    Along step P s run ↔ Along step Q s run :=
  ⟨Along.mono (fun s a h => (hiff s a h).mp) hkeep hs,
    Along.mono (fun s a h => (hiff s a h).mpr)
      (fun s a h hq => hkeep s a h ((hiff s a h).mpr hq)) hs⟩

/-- What does not depend on the state holds along a run if it holds of every action. -/
theorem along_const_iff (step : σ → α → σ) (p : α → Prop) (s : σ) (run : List α) :
    Along step (fun _ a => p a) s run ↔ ∀ a ∈ run, p a := by
  induction run generalizing s with
  | nil => exact iff_of_true trivial fun _ h => absurd h List.not_mem_nil
  | cons a run ih => rw [Along, ih, List.forall_mem_cons]

end MiniGateway.Runs
