import Mathlib.Algebra.BigOperators.Group.List.Basic
import Mathlib.Algebra.Order.Group.Int
import Mathlib.Algebra.Order.Group.Multiset
import Mathlib.Logic.Relation
import Mathlib.Tactic.Abel

/-!
# Support — Tasks

Tasks over a state they share.  A task takes one step at a time, and between two of its steps any
other may take some; tasks are started, and what is shared can change from outside.

* `Reachable.keeps`: what holds of the shared state, and of each task in it, holds in every pool
  that can be reached, if no step of a task spoils it — for that task or for the others.
* `Reachable.exclusive`: a lock that one task holds at a time, over what it guards.
* `Reachable.simulates`: what is reached is reached in another system that every step is one of.
* `Reachable.balance`, `Reachable.sum_le`: what the shared state keeps is what the tasks weigh, or
  covers it.
-/

namespace MiniGateway.Tasks

variable {σ τ : Type}

/-- What is shared, and the tasks. -/
structure Pool (σ τ : Type) where
  shared : σ
  tasks : List τ

/-- What can happen: a task takes a step and goes on, or is over; a task is started; what is
shared changes. -/
structure System (σ τ : Type) where
  Moves : σ → τ → σ → Option τ → Prop
  Starts : σ → σ → τ → Prop
  Changes : σ → σ → Prop

/-- One step of the whole. -/
inductive Step (S : System σ τ) : Pool σ τ → Pool σ τ → Prop where
  | move {s s' : σ} {t : τ} {t' : Option τ} (before after : List τ) (h : S.Moves s t s' t') :
      Step S ⟨s, before ++ t :: after⟩ ⟨s', before ++ (t'.toList ++ after)⟩
  | start {s s' : σ} {t : τ} (tasks : List τ) (h : S.Starts s s' t) :
      Step S ⟨s, tasks⟩ ⟨s', t :: tasks⟩
  | change {s s' : σ} (tasks : List τ) (h : S.Changes s s') : Step S ⟨s, tasks⟩ ⟨s', tasks⟩

/-- The pools that are reached from a state without tasks. -/
def Reachable (S : System σ τ) (s : σ) (p : Pool σ τ) : Prop :=
  Relation.ReflTransGen (Step S) ⟨s, []⟩ p

/-! ### Invariants -/

/-- What holds of every task after a step of one of them. -/
theorem forall_moved {P Q : τ → Prop} {before after : List τ} {t : τ} {t' : Option τ}
    (h : ∀ u ∈ before ++ t :: after, P u) (hown : ∀ u, t' = some u → Q u)
    (hothers : ∀ u, P u → Q u) : ∀ u ∈ before ++ (t'.toList ++ after), Q u := by
  intro u hu
  rcases List.mem_append.mp hu with hu | hu
  · exact hothers u (h u (by simp [hu]))
  · rcases List.mem_append.mp hu with hu | hu
    · exact hown u (Option.mem_toList.mp hu)
    · exact hothers u (h u (by simp [hu]))

/-- **What no step spoils**: `G` of the shared state, and `I` of each task in it. -/
structure Keeps (S : System σ τ) (G : σ → Prop) (I : σ → τ → Prop) : Prop where
  moves : ∀ {s t s' t'}, G s → I s t → S.Moves s t s' t' →
    G s' ∧ (∀ u, t' = some u → I s' u) ∧ ∀ u, I s u → I s' u
  starts : ∀ {s s' t}, G s → S.Starts s s' t → G s' ∧ I s' t ∧ ∀ u, I s u → I s' u
  changes : ∀ {s s'}, G s → S.Changes s s' → G s' ∧ ∀ u, I s u → I s' u

section Keeps

variable {S : System σ τ} {G : σ → Prop} {I : σ → τ → Prop}

theorem Step.keeps (hk : Keeps S G I) {p p' : Pool σ τ} (h : Step S p p')
    (hp : G p.shared ∧ ∀ t ∈ p.tasks, I p.shared t) :
    G p'.shared ∧ ∀ t ∈ p'.tasks, I p'.shared t := by
  obtain ⟨hG, hI⟩ := hp
  cases h with
  | @move s s' t t' before after h =>
      obtain ⟨hG', hown, hothers⟩ := hk.moves hG (hI t (by simp)) h
      exact ⟨hG', forall_moved hI hown hothers⟩
  | start tasks h =>
      obtain ⟨hG', hown, hothers⟩ := hk.starts hG h
      refine ⟨hG', fun u hu => ?_⟩
      rcases List.mem_cons.mp hu with rfl | hu
      · exact hown
      · exact hothers u (hI u hu)
  | change tasks h =>
      obtain ⟨hG', hothers⟩ := hk.changes hG h
      exact ⟨hG', fun u hu => hothers u (hI u hu)⟩

/-- **The invariant rule.** -/
theorem Reachable.keeps (hk : Keeps S G I) {s : σ} (hs : G s) {p : Pool σ τ}
    (h : Reachable S s p) : G p.shared ∧ ∀ t ∈ p.tasks, I p.shared t := by
  induction h with
  | refl => exact ⟨hs, fun t ht => absurd ht List.not_mem_nil⟩
  | tail _ hstep ih => exact hstep.keeps hk ih

/-- Nothing to keep. -/
theorem Keeps.trivial : Keeps S (fun _ => True) fun _ _ => True where
  moves _ _ _ := ⟨True.intro, fun _ _ => True.intro, fun _ _ => True.intro⟩
  starts _ _ := ⟨True.intro, True.intro, fun _ _ => True.intro⟩
  changes _ _ := ⟨True.intro, fun _ _ => True.intro⟩

end Keeps

/-! ### Locks -/

/-- **A lock.**  While it is free, `Free` holds of the shared state; while a task holds it, `Held`
does of the shared state and that task.  `I` is what holds of each task, whether it holds the lock
or not. -/
structure Locks (S : System σ τ) (holds : τ → Bool) (Free : σ → Prop) (Held : σ → τ → Prop)
    (I : σ → τ → Prop) : Prop where
  /-- The task of a step is the only one that can hold the lock. -/
  moves : ∀ {s t s' t'}, (if holds t then Held s t else Free s) → I s t → S.Moves s t s' t' →
    ((Free s' ∧ ∀ u, t' = some u → holds u = false) ∨
      ∃ u, t' = some u ∧ holds u = true ∧ Held s' u) ∧
    (∀ u, t' = some u → I s' u) ∧ ∀ u, I s u → I s' u
  /-- Another task holds the lock. -/
  beside : ∀ {s h t s' t'}, Held s h → holds h = true → holds t = false → I s t →
    S.Moves s t s' t' →
    Held s' h ∧ (∀ u, t' = some u → holds u = false ∧ I s' u) ∧ ∀ u, I s u → I s' u
  starts : ∀ {s s' t}, S.Starts s s' t → holds t = false ∧ I s' t ∧ (Free s → Free s') ∧
    (∀ h, Held s h → Held s' h) ∧ ∀ u, I s u → I s' u
  changes : ∀ {s s'}, S.Changes s s' → (Free s → Free s') ∧ (∀ h, Held s h → Held s' h) ∧
    ∀ u, I s u → I s' u

/-- No task holds the lock, or one does. -/
def Exclusive (holds : τ → Bool) (Free : σ → Prop) (Held : σ → τ → Prop) (p : Pool σ τ) : Prop :=
  (Free p.shared ∧ p.tasks.countP holds = 0) ∨
    (p.tasks.countP holds = 1 ∧ ∀ h ∈ p.tasks, holds h = true → Held p.shared h)

section Locks

variable {S : System σ τ} {holds : τ → Bool} {Free : σ → Prop} {Held : σ → τ → Prop}
  {I : σ → τ → Prop}

/-- The lock is free, or some task holds it. -/
theorem Exclusive.free_or_held {p : Pool σ τ} (h : Exclusive holds Free Held p) :
    Free p.shared ∨ ∃ t, Held p.shared t := by
  rcases h with ⟨hfree, -⟩ | ⟨hone, hheld⟩
  · exact Or.inl hfree
  · obtain ⟨t, hmem, ht⟩ := List.countP_pos_iff.mp (hone ▸ Nat.one_pos)
    exact Or.inr ⟨t, hheld t hmem ht⟩

theorem Exclusive.held {p : Pool σ τ} (h : Exclusive holds Free Held p) {t : τ} (ht : t ∈ p.tasks)
    (hholds : holds t = true) : Held p.shared t := by
  rcases h with ⟨-, hzero⟩ | ⟨-, hheld⟩
  · exact absurd hholds (List.countP_eq_zero.mp hzero t ht)
  · exact hheld t ht hholds

/-- **As many tasks hold the lock as it says.** -/
theorem Exclusive.countP_eq {p : Pool σ τ} (h : Exclusive holds Free Held p) {locked : σ → Bool}
    (hfree : ∀ s, Free s → locked s = false) (hheld : ∀ s t, Held s t → locked s = true) :
    p.tasks.countP holds = (locked p.shared).toNat := by
  rcases h with ⟨hs, hzero⟩ | ⟨hone, hH⟩
  · rw [hzero, hfree _ hs]
    rfl
  · obtain ⟨t, hmem, ht⟩ := List.countP_pos_iff.mp (hone ▸ Nat.one_pos)
    rw [hone, hheld _ t (hH t hmem ht)]
    rfl

/-- A task that is the only one that can hold the lock takes a step. -/
theorem Exclusive.alone {s' : σ} {before after : List τ} {t' : Option τ}
    (hothers : before.countP holds = 0 ∧ after.countP holds = 0)
    (h : (Free s' ∧ ∀ u, t' = some u → holds u = false) ∨
      ∃ u, t' = some u ∧ holds u = true ∧ Held s' u) :
    Exclusive holds Free Held ⟨s', before ++ (t'.toList ++ after)⟩ := by
  rcases h with ⟨hfree, hnone⟩ | ⟨u, rfl, hu, hheld⟩
  · refine Or.inl ⟨hfree, ?_⟩
    cases t' with
    | none => simp [hothers.1, hothers.2]
    | some u => simp [hothers.1, hothers.2, hnone u rfl]
  · refine Or.inr ⟨by simp [hothers.1, hothers.2, hu], fun h hh hholds => ?_⟩
    have hno : ∀ l : List τ, l.countP holds = 0 → h ∉ l := fun l hl hmem =>
      absurd hholds (by simpa using List.countP_eq_zero.mp hl h hmem)
    rcases List.mem_append.mp hh with hh | hh
    · exact absurd hh (hno before hothers.1)
    · rcases List.mem_cons.mp hh with rfl | hh
      · exact hheld
      · exact absurd hh (hno after hothers.2)

/-- A task takes a step while another holds the lock. -/
theorem Exclusive.beside {s s' : σ} {before after : List τ} {t : τ} {t' : Option τ}
    (ht : holds t = false) (hnone : ∀ u, t' = some u → holds u = false)
    (hone : (before ++ t :: after).countP holds = 1)
    (hheld : ∀ h ∈ before ++ t :: after, holds h = true → Held s h)
    (hkept : ∀ h, holds h = true → Held s h → Held s' h) :
    Exclusive holds Free Held ⟨s', before ++ (t'.toList ++ after)⟩ := by
  refine Or.inr ⟨?_, ?_⟩
  · have hzero : t'.toList.countP holds = 0 := by
      cases t' with
      | none => rfl
      | some u => simp [hnone u rfl]
    simp only [List.countP_append, List.countP_cons, ht] at hone ⊢
    simpa [hzero] using hone
  · refine forall_moved hheld (fun u hu hholds => ?_) fun u hu hholds => hkept u hholds (hu hholds)
    rw [hnone u hu] at hholds
    cases hholds

/-- A task takes a step. -/
theorem Exclusive.move (hl : Locks S holds Free Held I) {s s' : σ} {before after : List τ} {t : τ}
    {t' : Option τ} (h : S.Moves s t s' t')
    (hex : Exclusive holds Free Held ⟨s, before ++ t :: after⟩)
    (hI : ∀ u ∈ before ++ t :: after, I s u) :
    Exclusive holds Free Held ⟨s', before ++ (t'.toList ++ after)⟩ ∧
      ∀ u ∈ before ++ (t'.toList ++ after), I s' u := by
  have ht := hI t (by simp)
  rcases hex with ⟨hfree, hzero⟩ | ⟨hone, hheld⟩
  · simp only [List.countP_append, List.countP_cons] at hzero
    cases hholds : holds t with
    | true => simp [hholds] at hzero
    | false =>
        obtain ⟨hlock, hown, hothers⟩ := hl.moves (by simpa [hholds] using hfree) ht h
        exact ⟨Exclusive.alone (by omega) hlock, forall_moved hI hown hothers⟩
  · cases hholds : holds t with
    | true =>
        have hHeld := hheld t (by simp) hholds
        obtain ⟨hlock, hown, hothers⟩ := hl.moves (by simpa [hholds] using hHeld) ht h
        simp only [List.countP_append, List.countP_cons, hholds, if_true] at hone
        exact ⟨Exclusive.alone (by omega) hlock, forall_moved hI hown hothers⟩
    | false =>
        obtain ⟨holder, hmem, hholder⟩ := List.countP_pos_iff.mp (hone ▸ Nat.one_pos)
        obtain ⟨-, hown, hothers⟩ := hl.beside (hheld holder hmem hholder) hholder hholds ht h
        refine ⟨Exclusive.beside hholds (fun u hu => (hown u hu).1) hone hheld ?_,
          forall_moved hI (fun u hu => (hown u hu).2) hothers⟩
        exact fun u hu hHeld => (hl.beside hHeld hu hholds ht h).1

theorem Step.exclusive (hl : Locks S holds Free Held I) {p p' : Pool σ τ} (h : Step S p p')
    (hp : Exclusive holds Free Held p ∧ ∀ t ∈ p.tasks, I p.shared t) :
    Exclusive holds Free Held p' ∧ ∀ t ∈ p'.tasks, I p'.shared t := by
  obtain ⟨hex, hI⟩ := hp
  cases h with
  | move before after h => exact Exclusive.move hl h hex hI
  | @start s s' t tasks h =>
      obtain ⟨hholds, hown, hfree, hheld, hothers⟩ := hl.starts h
      refine ⟨?_, fun u hu => ?_⟩
      · rcases hex with ⟨hs, hzero⟩ | ⟨hone, hH⟩
        · exact Or.inl ⟨hfree hs, by simp [hholds, hzero]⟩
        · refine Or.inr ⟨by simp [hholds, hone], fun u hu hu' => ?_⟩
          rcases List.mem_cons.mp hu with rfl | hu
          · rw [hholds] at hu'
            cases hu'
          · exact hheld u (hH u hu hu')
      · rcases List.mem_cons.mp hu with rfl | hu
        · exact hown
        · exact hothers u (hI u hu)
  | change tasks h =>
      obtain ⟨hfree, hheld, hothers⟩ := hl.changes h
      refine ⟨?_, fun u hu => hothers u (hI u hu)⟩
      rcases hex with ⟨hs, hzero⟩ | ⟨hone, hH⟩
      · exact Or.inl ⟨hfree hs, hzero⟩
      · exact Or.inr ⟨hone, fun u hu hu' => hheld u (hH u hu hu')⟩

/-- **The lock rule.** -/
theorem Reachable.exclusive (hl : Locks S holds Free Held I) {s : σ} (hs : Free s) {p : Pool σ τ}
    (h : Reachable S s p) :
    Exclusive holds Free Held p ∧ ∀ t ∈ p.tasks, I p.shared t := by
  induction h with
  | refl => exact ⟨Or.inl ⟨hs, rfl⟩, fun t ht => absurd ht List.not_mem_nil⟩
  | tail _ hstep ih => exact hstep.exclusive hl ih

end Locks

/-! ### Simulations -/

/-- **Every step is one of another system**, seen through `f` and `g`. -/
structure Simulates {σ' τ' : Type} (S : System σ τ) (S' : System σ' τ') (f : σ → σ') (g : τ → τ') :
    Prop where
  moves : ∀ {s t s' t'}, S.Moves s t s' t' → S'.Moves (f s) (g t) (f s') (t'.map g)
  starts : ∀ {s s' t}, S.Starts s s' t → S'.Starts (f s) (f s') (g t)
  changes : ∀ {s s'}, S.Changes s s' → S'.Changes (f s) (f s')

/-- **The simulation rule.** -/
theorem Reachable.simulates {σ' τ' : Type} {S : System σ τ} {S' : System σ' τ'} {f : σ → σ'}
    {g : τ → τ'} (hsim : Simulates S S' f g) {s : σ} {p : Pool σ τ} (h : Reachable S s p) :
    Reachable S' (f s) ⟨f p.shared, p.tasks.map g⟩ := by
  induction h with
  | refl => exact .refl
  | tail _ hstep ih =>
      refine ih.tail ?_
      cases hstep with
      | @move s s' t t' before after h =>
          have hmove := Step.move (before.map g) (after.map g) (hsim.moves h)
          cases t' <;> simpa using hmove
      | start tasks h => exact Step.start (tasks.map g) (hsim.starts h)
      | change tasks h => exact Step.change (tasks.map g) (hsim.changes h)

/-- The system, where what changes from outside keeps `P`. -/
def System.within (S : System σ τ) (P : σ → Prop) : System σ τ :=
  { S with Changes := fun s s' => S.Changes s s' ∧ (P s → P s') }

theorem Reachable.of_within {S : System σ τ} {P : σ → Prop} {s : σ} {p : Pool σ τ}
    (h : Reachable (S.within P) s p) : Reachable S s p := by
  have hsim : Simulates (S.within P) S id id :=
    ⟨fun h => by rw [Option.map_id]; exact h, fun h => h, fun h => h.1⟩
  simpa using Reachable.simulates hsim h

/-! ### Balances -/

section Weights

variable {M : Type} [AddCommMonoid M]

/-- The weight of the tasks. -/
def weight (w : τ → M) (tasks : List τ) : M := (tasks.map w).sum

@[simp] theorem weight_nil (w : τ → M) : weight w [] = 0 := rfl

@[simp] theorem weight_cons (w : τ → M) (t : τ) (tasks : List τ) :
    weight w (t :: tasks) = w t + weight w tasks := List.sum_cons

@[simp] theorem weight_append (w : τ → M) (l r : List τ) :
    weight w (l ++ r) = weight w l + weight w r := by
  rw [weight, List.map_append, List.sum_append]
  rfl

end Weights

theorem weight_one (tasks : List τ) : weight (fun _ => (1 : ℤ)) tasks = tasks.length := by
  induction tasks with
  | nil => rfl
  | cons t tasks ih => rw [weight_cons, ih, List.length_cons]; omega

theorem weight_nonneg {w : τ → ℤ} (hw : ∀ t, 0 ≤ w t) (tasks : List τ) : 0 ≤ weight w tasks := by
  induction tasks with
  | nil => exact Int.le_refl _
  | cons t tasks ih =>
      have ht := hw t
      rw [weight_cons]
      omega

/-- Weights that are bags. -/
theorem weight_coe {α : Type} (w : τ → List α) (tasks : List τ) :
    weight (fun t => (w t : Multiset α)) tasks = (tasks.flatMap w : Multiset α) := by
  induction tasks with
  | nil => rfl
  | cons t tasks ih => rw [weight_cons, ih, List.flatMap_cons, Multiset.coe_add]

/-- **What the shared state keeps is what the tasks weigh**: a step changes both alike. -/
structure Balances {M : Type} [AddCommMonoid M] (S : System σ τ) (G : σ → Prop)
    (I : σ → τ → Prop) (v : σ → M) (w : τ → M) : Prop where
  moves : ∀ {s t s' t'}, G s → I s t → S.Moves s t s' t' → v s' + w t = v s + weight w t'.toList
  starts : ∀ {s s' t}, G s → S.Starts s s' t → v s' = v s + w t
  changes : ∀ {s s'}, G s → S.Changes s s' → v s' = v s

section Balances

variable {M : Type} [AddCancelCommMonoid M] {S : System σ τ} {G : σ → Prop} {I : σ → τ → Prop}
  {v : σ → M} {w : τ → M}

/-- **The balance rule.** -/
theorem Reachable.balance (hk : Keeps S G I) (hb : Balances S G I v w) {s : σ} (hs : G s)
    {p : Pool σ τ} (h : Reachable S s p) : v p.shared = v s + weight w p.tasks := by
  induction h with
  | refl => rw [weight_nil, add_zero]
  | tail hreach hstep ih =>
      obtain ⟨hG, hI⟩ := Reachable.keeps hk hs hreach
      cases hstep with
      | @move s₁ s' t t' before after h =>
          have hmove := hb.moves hG (hI t (by simp)) h
          simp only [weight_append, weight_cons] at ih ⊢
          refine add_right_cancel (b := w t) ?_
          rw [hmove, ih]
          abel
      | start tasks h =>
          have hstart := hb.starts hG h
          simp only [weight_cons] at ih ⊢
          rw [hstart, ih]
          abel
      | change tasks h => rw [hb.changes hG h, ih]

end Balances

/-- **What the shared state puts by covers the weights**: a task's weight grows only by what is put
by in the same step. -/
structure Covers (S : System σ τ) (G : σ → Prop) (I : σ → τ → Prop) (v : σ → ℤ) (w : τ → ℤ) :
    Prop where
  moves : ∀ {s t s' t'}, G s → I s t → S.Moves s t s' t' →
    weight w t'.toList - w t ≤ v s' - v s
  starts : ∀ {s s' t}, G s → S.Starts s s' t → w t ≤ v s' - v s
  changes : ∀ {s s'}, G s → S.Changes s s' → v s ≤ v s'

section Covers

variable {S : System σ τ} {G : σ → Prop} {I : σ → τ → Prop} {v : σ → ℤ} {w : τ → ℤ}

theorem Step.sum_le (hc : Covers S G I v w) {p p' : Pool σ τ} (h : Step S p p')
    (hp : G p.shared ∧ ∀ t ∈ p.tasks, I p.shared t) :
    weight w p'.tasks - weight w p.tasks ≤ v p'.shared - v p.shared := by
  obtain ⟨hG, hI⟩ := hp
  cases h with
  | @move s s' t t' before after h =>
      have hmove := hc.moves hG (hI t (by simp)) h
      simp only [weight_append, weight_cons] at hmove ⊢
      omega
  | start tasks h =>
      have hstart := hc.starts hG h
      simp only [weight_cons] at hstart ⊢
      omega
  | change tasks h =>
      have hchange := hc.changes hG h
      simp only at hchange ⊢
      omega

/-- **The rule of covered weights.** -/
theorem Reachable.sum_le (hk : Keeps S G I) (hc : Covers S G I v w) {s : σ} (hs : G s)
    {p : Pool σ τ} (h : Reachable S s p) : weight w p.tasks ≤ v p.shared - v s := by
  induction h with
  | refl => simp
  | tail hreach hstep ih =>
      have hle := hstep.sum_le hc (Reachable.keeps hk hs hreach)
      omega

end Covers

end MiniGateway.Tasks
