import Mathlib.Logic.Function.Basic
import Mathlib.Logic.Relation

/-!
# Support — Concurrent

Threads that share a table of entries and ask questions of something outside that changes while
they run.

A thread's program is a `Prog`: it reads an entry, writes one, or asks and goes on with the reply;
each of these is one step, and between two steps of a thread any other may run.  The outside goes
through *versions*, and a reply belongs to the version it was given at.  Beside what the threads
can see, a state keeps each reply they got (`history`), each thread's last reply (`seen`), and
under each key the last reply of the thread that wrote it (`source`).

* `Reachable.sound`: if each program writes only what its last reply justifies, then in every
  reachable state each entry is justified by a reply that was given, and the results of the
  threads meet what is proved of their programs, one at a time (`Prog.Meets`).
* `OrderedRun.ordered`, `Ordered.not_goesBack`: as long as no thread writes past another that got
  its reply earlier and has still to write, no entry is replaced by one from an older version.
-/

namespace MiniGateway.Concurrent

variable {I J K V Q A R S : Type}

/-! ### Programs -/

/-- A program with results in `R`: entries `V` under keys `K`, questions `Q`, replies `A`. -/
inductive Prog (K V Q A R : Type) where
  | done (r : R)
  | read (k : K) (next : Option V → Prog K V Q A R)
  | ask (q : Q) (next : A → Prog K V Q A R)
  | write (k : K) (v : V) (next : Prog K V Q A R)

namespace Prog

/-- One program after another. -/
def bind : Prog K V Q A R → (R → Prog K V Q A S) → Prog K V Q A S
  | done r, f => f r
  | read k next, f => read k fun v => (next v).bind f
  | ask q next, f => ask q fun a => (next a).bind f
  | write k v next, f => write k v (next.bind f)

instance : Monad (Prog K V Q A) where
  pure := done
  bind := bind

/-- The entry under `k`. -/
def lookup (k : K) : Prog K V Q A (Option V) := read k done

/-- The reply to `q`. -/
def send (q : Q) : Prog K V Q A A := ask q done

/-- Let the entry under `k` be `v`. -/
def insert (k : K) (v : V) : Prog K V Q A Unit := write k v (done ())

/-- The program run alone, with what is outside as it is. -/
def run [DecidableEq K] (answer : Q → A) :
    Prog K V Q A R → (K → Option V) → R × (K → Option V)
  | done r, entries => (r, entries)
  | read k next, entries => (next (entries k)).run answer entries
  | ask q next, entries => (next (answer q)).run answer entries
  | write k v next, entries => next.run answer (Function.update entries k (some v))

theorem run_bind [DecidableEq K] (answer : Q → A) (f : R → Prog K V Q A S) (p : Prog K V Q A R)
    (entries : K → Option V) : (p.bind f).run answer entries =
      (f (p.run answer entries).1).run answer (p.run answer entries).2 := by
  induction p generalizing entries with
  | done r => rfl
  | read k next ih => exact ih (entries k) entries
  | ask q next ih => exact ih (answer q) entries
  | write k v next ih => exact ih _

/-- Whether the program can write `k` before it asks again. -/
def Pending (k : K) : Prog K V Q A R → Prop
  | done _ => False
  | read _ next => ∃ v, (next v).Pending k
  | ask _ _ => False
  | write k' _ next => k' = k ∨ next.Pending k

end Prog

/-- A reply, with the question and the version it was given at. -/
structure Seen (Q A : Type) where
  version : Nat
  request : Q
  reply : A

/-! ### What programs keep to -/

section Meets

variable (Justifies : Seen Q A → K → V → Prop)

/-- Some reply of the history justifies the entry. -/
def Known (history : List (Seen Q A)) (k : K) (v : V) : Prop := ∃ x ∈ history, Justifies x k v

/-- **What a program keeps to**, from a history and a last reply on: it writes only what its last
reply justifies, if what it reads is justified by replies that were given; and its result meets
`Post`.  Other threads may add to the history in between. -/
def Prog.Meets (Post : List (Seen Q A) → Option (Seen Q A) → R → Prop) :
    Prog K V Q A R → List (Seen Q A) → Option (Seen Q A) → Prop
  | done r, history, seen => Post history seen r
  | read k next, history, seen => ∀ history', history ⊆ history' → ∀ v : Option V,
      (∀ x ∈ v, Known Justifies history' k x) → (next v).Meets Post history' seen
  | ask q next, history, _ => ∀ history', history ⊆ history' → ∀ x ∈ history', x.request = q →
      (next x.reply).Meets Post history' (some x)
  | write k v next, history, seen =>
      (∃ x ∈ seen, Justifies x k v) ∧ next.Meets Post history seen

variable {Justifies}

/-- A longer history does no harm. -/
theorem Prog.Meets.mono {Post : List (Seen Q A) → Option (Seen Q A) → R → Prop}
    (hPost : ∀ h h' seen r, h ⊆ h' → Post h seen r → Post h' seen r) {p : Prog K V Q A R}
    {history history' : List (Seen Q A)} {seen : Option (Seen Q A)} (hsub : history ⊆ history')
    (hp : p.Meets Justifies Post history seen) : p.Meets Justifies Post history' seen := by
  induction p with
  | done r => exact hPost _ _ _ _ hsub hp
  | read k next _ => exact fun history'' hsub' => hp history'' (List.Subset.trans hsub hsub')
  | ask q next _ => exact fun history'' hsub' => hp history'' (List.Subset.trans hsub hsub')
  | write k v next ih => exact ⟨hp.1, ih hp.2⟩

/-- One program after another. -/
theorem Prog.Meets.bind {Mid : List (Seen Q A) → Option (Seen Q A) → R → Prop}
    {Post : List (Seen Q A) → Option (Seen Q A) → S → Prop} {f : R → Prog K V Q A S}
    {p : Prog K V Q A R} {history : List (Seen Q A)} {seen : Option (Seen Q A)}
    (hp : p.Meets Justifies Mid history seen)
    (hf : ∀ history' seen' r, Mid history' seen' r → (f r).Meets Justifies Post history' seen') :
    (p.bind f).Meets Justifies Post history seen := by
  induction p generalizing history seen with
  | done r => exact hf _ _ _ hp
  | read k next ih => exact fun history' hsub v hv => ih v (hp history' hsub v hv)
  | ask q next ih => exact fun history' hsub x hx hq => ih x.reply (hp history' hsub x hx hq)
  | write k v next ih => exact ⟨hp.1, ih hp.2⟩

end Meets

/-! ### Threads -/

/-- A thread: what it was started for, what is left of it, and its last reply. -/
structure Thread (J K V Q A R : Type) where
  job : J
  rest : Prog K V Q A R
  seen : Option (Seen Q A)

/-- The programs of the jobs, which of them start over when they are done, and the replies that can
be given at a version. -/
structure Machine (J K V Q A R : Type) where
  program : J → Prog K V Q A R
  loops : J → Bool
  Replies : Nat → Q → A → Prop

structure State (I J K V Q A R : Type) where
  version : Nat
  entries : K → Option V
  source : K → Option (Seen Q A)
  history : List (Seen Q A)
  threads : I → Option (Thread J K V Q A R)

/-- No entries and no threads. -/
def State.init : State I J K V Q A R := ⟨0, fun _ => none, fun _ => none, [], fun _ => none⟩

/-- **The invariant** of programs that keep to their part: each entry is justified by its source,
which was given; each thread keeps to what is left of its part; and the history holds only replies
that were given. -/
structure Sound (M : Machine J K V Q A R) (Justifies : Seen Q A → K → V → Prop)
    (Post : J → List (Seen Q A) → Option (Seen Q A) → R → Prop) (s : State I J K V Q A R) :
    Prop where
  entries : ∀ k v, s.entries k = some v →
    ∃ x, s.source k = some x ∧ x ∈ s.history ∧ Justifies x k v
  threads : ∀ i th, s.threads i = some th → (∀ x ∈ th.seen, x ∈ s.history) ∧
    th.rest.Meets Justifies (Post th.job) s.history th.seen
  history : ∀ x ∈ s.history, M.Replies x.version x.request x.reply

section Start

variable {Justifies : Seen Q A → K → V → Prop} {M : Machine J K V Q A R}
  {Post : J → List (Seen Q A) → Option (Seen Q A) → R → Prop}

theorem Sound.init : Sound M Justifies Post (State.init : State I J K V Q A R) where
  entries _ _ h := by cases h
  threads _ _ h := by cases h
  history _ h := by cases h

/-- A thread that starts keeps to its part. -/
theorem meets_program
    (hPost : ∀ j h h' seen r, h ⊆ h' → Post j h seen r → Post j h' seen r)
    (hprog : ∀ j, (M.program j).Meets Justifies (Post j) [] none) (j : J)
    (history : List (Seen Q A)) :
    (M.program j).Meets Justifies (Post j) history none :=
  (hprog j).mono (hPost j) (List.nil_subset history)

end Start

/-! ### Steps -/

variable [DecidableEq I]

/-- The state with the thread `i` as given. -/
def State.put (s : State I J K V Q A R) (i : I) (th : Thread J K V Q A R) : State I J K V Q A R :=
  { s with threads := Function.update s.threads i (some th) }

/-- What holds of every thread, and of the one that is put in place, holds after that. -/
theorem State.forall_put {P : I → Thread J K V Q A R → Prop} {s : State I J K V Q A R} {i : I}
    {th : Thread J K V Q A R} (hs : ∀ j th', s.threads j = some th' → P j th') (hi : P i th) :
    ∀ j th', (s.put i th).threads j = some th' → P j th' := by
  intro j th' hj
  by_cases hji : j = i
  · subst hji
    simp only [State.put, Function.update_self, Option.some.injEq] at hj
    exact hj ▸ hi
  · simp only [State.put, Function.update_of_ne hji] at hj
    exact hs j th' hj

/-- The state without the thread `i`. -/
def State.drop (s : State I J K V Q A R) (i : I) : State I J K V Q A R :=
  { s with threads := Function.update s.threads i none }

theorem State.forall_drop {P : I → Thread J K V Q A R → Prop} {s : State I J K V Q A R}
    (hs : ∀ j th, s.threads j = some th → P j th) (i : I) :
    ∀ j th, (s.drop i).threads j = some th → P j th := by
  intro j th hj
  by_cases hji : j = i
  · subst hji
    simp only [State.drop, Function.update_self] at hj
    cases hj
  · simp only [State.drop, Function.update_of_ne hji] at hj
    exact hs j th hj

variable [DecidableEq K]

/-- The thread `i` takes a step. -/
inductive Moves (M : Machine J K V Q A R) (i : I) (s : State I J K V Q A R) :
    State I J K V Q A R → Prop where
  | read {th : Thread J K V Q A R} {k : K} {next : Option V → Prog K V Q A R}
      (hi : s.threads i = some th) (hr : th.rest = .read k next) :
      Moves M i s (s.put i { th with rest := next (s.entries k) })
  | ask {th : Thread J K V Q A R} {q : Q} {next : A → Prog K V Q A R} {a : A}
      (hi : s.threads i = some th) (hr : th.rest = .ask q next) (ha : M.Replies s.version q a) :
      Moves M i s { s.put i { th with rest := next a, seen := some ⟨s.version, q, a⟩ } with
        history := ⟨s.version, q, a⟩ :: s.history }
  | write {th : Thread J K V Q A R} {k : K} {v : V} {next : Prog K V Q A R}
      (hi : s.threads i = some th) (hr : th.rest = .write k v next) :
      Moves M i s { s.put i { th with rest := next } with
        entries := Function.update s.entries k (some v)
        source := Function.update s.source k th.seen }
  | again {th : Thread J K V Q A R} {r : R} (hi : s.threads i = some th)
      (hr : th.rest = .done r) (hl : M.loops th.job = true) :
      Moves M i s (s.put i ⟨th.job, M.program th.job, none⟩)

/-- What happens to the threads, and to what they ask: one is started, or dropped wherever it
stands, or the outside changes. -/
inductive Outside (M : Machine J K V Q A R) (s : State I J K V Q A R) :
    State I J K V Q A R → Prop where
  | start {i : I} (j : J) (hi : s.threads i = none) :
      Outside M s (s.put i ⟨j, M.program j, none⟩)
  | drop (i : I) : Outside M s (s.drop i)
  | change : Outside M s { s with version := s.version + 1 }

/-- One step of the whole. -/
def Step (M : Machine J K V Q A R) (s s' : State I J K V Q A R) : Prop :=
  (∃ i, Moves M i s s') ∨ Outside M s s'

/-- A thread that is about to read has one step. -/
theorem Moves.read_iff {M : Machine J K V Q A R} {i : I} {s s' : State I J K V Q A R}
    {th : Thread J K V Q A R} {k : K} {next : Option V → Prog K V Q A R}
    (hi : s.threads i = some th) (hr : th.rest = .read k next) :
    Moves M i s s' ↔ s' = s.put i { th with rest := next (s.entries k) } := by
  refine ⟨fun h => ?_, fun h => h ▸ .read hi hr⟩
  cases h with
  | read hi' hr' =>
      cases hi.symm.trans hi'
      cases hr.symm.trans hr'
      rfl
  | ask hi' hr' _ =>
      cases hi.symm.trans hi'
      cases hr.symm.trans hr'
  | write hi' hr' =>
      cases hi.symm.trans hi'
      cases hr.symm.trans hr'
  | again hi' hr' _ =>
      cases hi.symm.trans hi'
      cases hr.symm.trans hr'

/-- **A program run alone is one of the interleavings**: a thread that is left to run, while the
outside stays as it is, ends with the result and leaves the entries behind. -/
theorem Prog.run_moves {M : Machine J K V Q A R} {i : I} (answer : Q → A) {version : Nat}
    (hans : ∀ q, M.Replies version q (answer q)) (p : Prog K V Q A R) :
    ∀ {s : State I J K V Q A R} {th : Thread J K V Q A R}, s.version = version →
      s.threads i = some th → th.rest = p →
      ∃ s' th', Relation.ReflTransGen (Moves M i) s s' ∧ s'.threads i = some th' ∧
        th'.job = th.job ∧ th'.rest = .done (p.run answer s.entries).1 ∧
        s'.entries = (p.run answer s.entries).2 := by
  have hself : ∀ (s : State I J K V Q A R) th, (s.put i th).threads i = some th := fun s th =>
    Function.update_self ..
  induction p with
  | done r => exact fun {s th} _ hi hr => ⟨s, th, .refl, hi, rfl, hr, rfl⟩
  | read k next ih =>
      intro s th hv hi hr
      obtain ⟨s', th', hrun, hi', hjob, hr', he⟩ := ih (s.entries k)
        (s := s.put i { th with rest := next (s.entries k) }) hv (hself _ _) rfl
      exact ⟨s', th', .head (.read hi hr) hrun, hi', hjob, hr', he⟩
  | ask q next ih =>
      intro s th hv hi hr
      obtain ⟨s', th', hrun, hi', hjob, hr', he⟩ := ih (answer q) (s :=
        { s.put i { th with rest := next (answer q), seen := some ⟨s.version, q, answer q⟩ } with
          history := ⟨s.version, q, answer q⟩ :: s.history }) hv (hself _ _) rfl
      exact ⟨s', th', .head (.ask hi hr (by rw [hv]; exact hans q)) hrun, hi', hjob, hr', he⟩
  | write k v next ih =>
      intro s th hv hi hr
      obtain ⟨s', th', hrun, hi', hjob, hr', he⟩ := ih (s :=
        { s.put i { th with rest := next } with
          entries := Function.update s.entries k (some v)
          source := Function.update s.source k th.seen }) hv (hself _ _) rfl
      exact ⟨s', th', .head (.write hi hr) hrun, hi', hjob, hr', he⟩

/-- **What a thread does to an entry**: nothing, or it writes it. -/
theorem Moves.entry_cases {M : Machine J K V Q A R} {i : I} {s s' : State I J K V Q A R}
    (h : Moves M i s s') (k : K) :
    (s'.entries k = s.entries k ∧ s'.source k = s.source k) ∨
    ∃ th v next, s.threads i = some th ∧ th.rest = .write k v next ∧ s'.entries k = some v ∧
      s'.source k = th.seen ∧ s'.threads i = some { th with rest := next } := by
  cases h with
  | read hi hr => exact Or.inl ⟨rfl, rfl⟩
  | ask hi hr ha => exact Or.inl ⟨rfl, rfl⟩
  | again hi hr hl => exact Or.inl ⟨rfl, rfl⟩
  | @write th k' v next hi hr =>
      by_cases hk : k = k'
      · subst hk
        exact Or.inr ⟨th, v, next, hi, hr, Function.update_self .., Function.update_self ..,
          Function.update_self ..⟩
      · exact Or.inl ⟨Function.update_of_ne hk .., Function.update_of_ne hk ..⟩

theorem Step.entry_cases {M : Machine J K V Q A R} {s s' : State I J K V Q A R}
    (h : Step M s s') (k : K) :
    (s'.entries k = s.entries k ∧ s'.source k = s.source k) ∨
    ∃ i th v next, s.threads i = some th ∧ th.rest = .write k v next ∧ s'.entries k = some v ∧
      s'.source k = th.seen := by
  rcases h with ⟨i, hmove⟩ | hout
  · rcases hmove.entry_cases k with hsame | ⟨th, v, next, hi, hr, he, hsrc, -⟩
    · exact Or.inl hsame
    · exact Or.inr ⟨i, th, v, next, hi, hr, he, hsrc⟩
  · cases hout with
    | start j hi => exact Or.inl ⟨rfl, rfl⟩
    | drop i => exact Or.inl ⟨rfl, rfl⟩
    | change => exact Or.inl ⟨rfl, rfl⟩

/-- The states some interleaving reaches. -/
def Reachable (M : Machine J K V Q A R) (s : State I J K V Q A R) : Prop :=
  Relation.ReflTransGen (Step M) .init s

/-! ### Soundness -/

section Sound

variable {Justifies : Seen Q A → K → V → Prop} {M : Machine J K V Q A R}
  {Post : J → List (Seen Q A) → Option (Seen Q A) → R → Prop}

variable (hPost : ∀ j h h' seen r, h ⊆ h' → Post j h seen r → Post j h' seen r)
  (hprog : ∀ j, (M.program j).Meets Justifies (Post j) [] none)

include hPost hprog

/-- A step of a thread keeps the invariant. -/
theorem Sound.moves {i : I} {s s' : State I J K V Q A R} (hs : Sound M Justifies Post s)
    (h : Moves M i s s') : Sound M Justifies Post s' := by
  cases h with
  | @read th k next hi hr =>
      obtain ⟨hseen, hmeets⟩ := hs.threads i th hi
      rw [hr] at hmeets
      refine ⟨hs.entries, State.forall_put hs.threads ⟨hseen, ?_⟩, hs.history⟩
      refine hmeets _ (List.Subset.refl _) _ fun v hv => ?_
      obtain ⟨x, -, hx, hj⟩ := hs.entries k v hv
      exact ⟨x, hx, hj⟩
  | @ask th q next a hi hr ha =>
      obtain ⟨-, hmeets⟩ := hs.threads i th hi
      rw [hr] at hmeets
      have hsub : s.history ⊆ ⟨s.version, q, a⟩ :: s.history := List.subset_cons_self _ _
      refine ⟨fun k v hv => ?_, State.forall_put (fun j th' hj => ?_) ⟨?_, ?_⟩, ?_⟩
      · obtain ⟨x, hsrc, hx, hj⟩ := hs.entries k v hv
        exact ⟨x, hsrc, hsub hx, hj⟩
      · obtain ⟨hseen, hmeets'⟩ := hs.threads j th' hj
        exact ⟨fun x hx => hsub (hseen x hx), hmeets'.mono (hPost th'.job) hsub⟩
      · rintro x ⟨⟩
        exact List.mem_cons_self
      · exact hmeets _ hsub ⟨s.version, q, a⟩ List.mem_cons_self rfl
      · intro x hx
        rcases List.mem_cons.mp hx with rfl | hx
        · exact ha
        · exact hs.history x hx
  | @write th k v next hi hr =>
      obtain ⟨hseen, hmeets⟩ := hs.threads i th hi
      rw [hr] at hmeets
      obtain ⟨⟨x, hx, hjust⟩, hnext⟩ := hmeets
      refine ⟨fun k' v' hv => ?_, State.forall_put hs.threads ⟨hseen, hnext⟩, hs.history⟩
      by_cases hk : k' = k
      · subst hk
        simp only [Function.update_self, Option.some.injEq] at hv ⊢
        exact ⟨x, hx, hseen x hx, hv ▸ hjust⟩
      · simp only [Function.update_of_ne hk] at hv ⊢
        exact hs.entries k' v' hv
  | @again th r hi hr hl =>
      refine ⟨hs.entries, State.forall_put hs.threads ⟨?_, ?_⟩, hs.history⟩
      · rintro x ⟨⟩
      · exact meets_program hPost hprog th.job s.history

omit [DecidableEq K] in
theorem Sound.outside {s s' : State I J K V Q A R} (hs : Sound M Justifies Post s)
    (h : Outside M s s') : Sound M Justifies Post s' := by
  cases h with
  | start j hi =>
      refine ⟨hs.entries, State.forall_put hs.threads ⟨?_, ?_⟩, hs.history⟩
      · rintro x ⟨⟩
      · exact meets_program hPost hprog j s.history
  | drop i => exact ⟨hs.entries, State.forall_drop hs.threads i, hs.history⟩
  | change => exact ⟨hs.entries, hs.threads, hs.history⟩

/-- **Every reachable state is sound.** -/
theorem Reachable.sound {s : State I J K V Q A R} (h : Reachable M s) :
    Sound M Justifies Post s := by
  induction h with
  | refl => exact Sound.init
  | tail _ hstep ih =>
      rcases hstep with ⟨i, hmove⟩ | hout
      · exact ih.moves hPost hprog hmove
      · exact ih.outside hPost hprog hout

end Sound

/-! ### Order -/

/-- The thread `i` is about to write past another: that one got its reply at an earlier version and
has still to write the same entry. -/
def State.Overtakes (s : State I J K V Q A R) (i : I) : Prop :=
  ∃ th x k v next, s.threads i = some th ∧ th.seen = some x ∧ th.rest = .write k v next ∧
    ∃ j th' x', s.threads j = some th' ∧ th'.seen = some x' ∧ th'.rest.Pending k ∧
      x'.version < x.version

section NotOvertakes

omit [DecidableEq I] [DecidableEq K]

variable {s : State I J K V Q A R} {i : I} {th : Thread J K V Q A R}

/-- A thread that is not about to write overtakes none. -/
theorem State.not_overtakes_of_rest (hi : s.threads i = some th)
    (hr : ∀ k v next, th.rest ≠ .write k v next) : ¬ s.Overtakes i := by
  rintro ⟨th', x, k, v, next, hi', -, hr', -⟩
  cases hi.symm.trans hi'
  exact hr k v next hr'

/-- Nor does one whose reply is from the first version. -/
theorem State.not_overtakes_of_first {x : Seen Q A} (hi : s.threads i = some th)
    (hx : th.seen = some x) (hfirst : x.version = 0) : ¬ s.Overtakes i := by
  rintro ⟨th', x', k, v, next, hi', hx', -, j, th'', x'', -, -, -, hlt⟩
  cases hi.symm.trans hi'
  cases hx.symm.trans hx'
  rw [hfirst] at hlt
  exact Nat.not_lt_zero _ hlt

end NotOvertakes

/-- A step that does not write past another thread. -/
def OrderedStep (M : Machine J K V Q A R) (s s' : State I J K V Q A R) : Prop :=
  (∃ i, Moves M i s s' ∧ ¬ s.Overtakes i) ∨ Outside M s s'

/-- The states reached by steps that do not write past another thread. -/
def OrderedRun (M : Machine J K V Q A R) (s : State I J K V Q A R) : Prop :=
  Relation.ReflTransGen (OrderedStep M) .init s

/-- An entry is replaced by one from an older version. -/
def GoesBack (s s' : State I J K V Q A R) : Prop :=
  ∃ k x x', s.source k = some x ∧ s'.source k = some x' ∧ x'.version < x.version

/-- **The invariant**: what a thread has still to write is no older than what is there. -/
structure Ordered (s : State I J K V Q A R) : Prop where
  pending : ∀ i th, s.threads i = some th → ∀ k, th.rest.Pending k →
    ∃ x, th.seen = some x ∧ ∀ y, s.source k = some y → y.version ≤ x.version
  seen : ∀ i th, s.threads i = some th → ∀ x, th.seen = some x → x.version ≤ s.version
  source : ∀ k y, s.source k = some y → y.version ≤ s.version

section Ordered

variable {M : Machine J K V Q A R}

omit [DecidableEq I] [DecidableEq K] in
theorem Ordered.init : Ordered (State.init : State I J K V Q A R) where
  pending _ _ h := by cases h
  seen _ _ h := by cases h
  source _ _ h := by cases h

omit [DecidableEq K] in
/-- A thread that has nothing to write before its next question can be put in place. -/
theorem Ordered.put {s : State I J K V Q A R} (hs : Ordered s) (i : I) {th : Thread J K V Q A R}
    (hno : ∀ k, ¬ th.rest.Pending k) (hseen : th.seen = none) : Ordered (s.put i th) where
  pending := State.forall_put hs.pending fun k hk => absurd hk (hno k)
  seen := State.forall_put hs.seen fun x hx => by rw [hseen] at hx; cases hx
  source := hs.source

section Preserved

variable (hfirst : ∀ j k, ¬ (M.program j).Pending k)

include hfirst

theorem Ordered.moves {i : I} {s s' : State I J K V Q A R} (hs : Ordered s) (h : Moves M i s s')
    (hno : ¬ s.Overtakes i) : Ordered s' := by
  cases h with
  | @read th k next hi hr =>
      refine ⟨State.forall_put hs.pending fun k' hk => ?_,
        State.forall_put hs.seen (hs.seen i th hi), hs.source⟩
      exact hs.pending i th hi k' (by rw [hr]; exact ⟨_, hk⟩)
  | @ask th q next a hi hr ha =>
      refine ⟨State.forall_put hs.pending fun k _ => ⟨_, rfl, hs.source k⟩,
        State.forall_put hs.seen fun x hx => ?_, hs.source⟩
      cases hx
      exact Nat.le_refl _
  | @write th k v next hi hr =>
      -- the writer's own reply becomes the source of what it writes
      have hsource : ∀ k' y, Function.update s.source k th.seen k' = some y →
          s.source k' = some y ∨ (k' = k ∧ th.seen = some y) := by
        intro k' y hy
        by_cases hk : k' = k
        · subst hk
          rw [Function.update_self] at hy
          exact Or.inr ⟨rfl, hy⟩
        · rw [Function.update_of_ne hk] at hy
          exact Or.inl hy
      refine ⟨State.forall_put (fun j th' hj k' hk => ?_) fun k' hk => ?_,
        State.forall_put hs.seen (hs.seen i th hi), fun k' y hy => ?_⟩
      · obtain ⟨x', hx', hle⟩ := hs.pending j th' hj k' hk
        refine ⟨x', hx', fun y hy => ?_⟩
        rcases hsource k' y hy with hold | ⟨rfl, hnew⟩
        · exact hle y hold
        · refine Nat.le_of_not_lt fun hlt => hno ?_
          exact ⟨th, y, k', v, next, hi, hnew, hr, j, th', x', hj, hx', hk, hlt⟩
      · obtain ⟨x', hx', hle⟩ := hs.pending i th hi k' (by rw [hr]; exact Or.inr hk)
        refine ⟨x', hx', fun y hy => ?_⟩
        rcases hsource k' y hy with hold | ⟨-, hnew⟩
        · exact hle y hold
        · cases hx'.symm.trans hnew
          exact Nat.le_refl _
      · rcases hsource k' y hy with hold | ⟨-, hnew⟩
        · exact hs.source k' y hold
        · exact hs.seen i th hi y hnew
  | @again th r hi hr hl => exact hs.put i (hfirst th.job) rfl

omit [DecidableEq K] in
theorem Ordered.outside {s s' : State I J K V Q A R} (hs : Ordered s) (h : Outside M s s') :
    Ordered s' := by
  cases h with
  | start j hi => exact hs.put _ (hfirst j) rfl
  | drop i => exact ⟨State.forall_drop hs.pending i, State.forall_drop hs.seen i, hs.source⟩
  | change =>
      exact ⟨hs.pending, fun i th hi x hx => Nat.le_succ_of_le (hs.seen i th hi x hx),
        fun k y hy => Nat.le_succ_of_le (hs.source k y hy)⟩

theorem OrderedRun.ordered {s : State I J K V Q A R} (h : OrderedRun M s) : Ordered s := by
  induction h with
  | refl => exact Ordered.init
  | tail _ hstep ih =>
      rcases hstep with ⟨i, hmove, hno⟩ | hout
      · exact ih.moves hfirst hmove hno
      · exact ih.outside hfirst hout

end Preserved

/-- From such a state no step goes back. -/
theorem Ordered.not_goesBack {s s' : State I J K V Q A R} (hs : Ordered s) (h : Step M s s') :
    ¬ GoesBack s s' := by
  rintro ⟨k, x, x', hx, hx', hlt⟩
  rcases h.entry_cases k with ⟨-, hsame⟩ | ⟨i, th, v, next, hi, hr, -, hsrc⟩
  · rw [hsame, hx] at hx'
    cases hx'
    exact Nat.lt_irrefl _ hlt
  · obtain ⟨y, hy, hle⟩ := hs.pending i th hi k (by rw [hr]; exact Or.inl rfl)
    rw [hsrc, hy] at hx'
    cases hx'
    exact Nat.not_lt.mpr (hle x hx) hlt

end Ordered

end MiniGateway.Concurrent
