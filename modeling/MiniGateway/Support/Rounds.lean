import Mathlib.Algebra.Group.Action.Defs
import Mathlib.Algebra.Order.BigOperators.Group.Finset
import Mathlib.Data.Nat.ModEq

/-!
# Support — Rounds

Choices out of a finite set, made one after the other.  They are `Level` up to `d` if the numbers
of times any two elements were chosen differ by at most `d`.

With `k` elements, the choices number `qk`, …, `qk + k - 1` are a round.  Choices are level up to
one all along exactly if no round has an element twice (`level_prefixes_iff`).  A counter that is
reduced modulo `k` never gives a round the same element twice (`level_window`); where it wraps in
between, the two parts add up (`level_wrapping`).
-/

namespace MiniGateway.Rounds

variable {α : Type} {S : Finset α} {l : List α}

/-- How far the finished rounds go. -/
def finished (k : Nat) (l : List α) : Nat := k * (l.length / k)

/-- What is in the last round. -/
theorem mem_drop_finished_iff {k : Nat} (hk : 0 < k) {x : α} :
    x ∈ l.drop (finished k l) ↔ ∃ i, i < l.length ∧ l[i]? = some x ∧ i / k = l.length / k := by
  rw [List.mem_iff_getElem?]
  simp only [List.getElem?_drop]
  constructor
  · rintro ⟨i, hi⟩
    have hlt : finished k l + i < l.length := (List.getElem?_eq_some_iff.mp hi).1
    refine ⟨finished k l + i, hlt, hi, ?_⟩
    refine Nat.le_antisymm (Nat.div_le_div_right (Nat.le_of_lt hlt)) ?_
    rw [Nat.le_div_iff_mul_le hk, Nat.mul_comm]
    exact Nat.le_add_right _ _
  · rintro ⟨i, -, hi, hround⟩
    have hle : finished k l ≤ i := by
      rw [finished, ← hround]
      exact Nat.mul_div_le i k
    refine ⟨i - finished k l, ?_⟩
    rwa [Nat.add_sub_cancel' hle]

/-- The element number `i` among those that satisfy `p`. -/
theorem exists_split {p : α → Bool} : ∀ {i : Nat}, i < l.countP p →
    ∃ pre a post, l = pre ++ a :: post ∧ p a = true ∧ pre.countP p = i := by
  induction l with
  | nil => exact fun h => absurd h (Nat.not_lt_zero _)
  | cons b l ih =>
      intro i hi
      by_cases hb : p b = true
      · cases i with
        | zero => exact ⟨[], b, l, rfl, hb, rfl⟩
        | succ i =>
            rw [List.countP_cons_of_pos hb] at hi
            obtain ⟨pre, a, post, rfl, ha, rfl⟩ := ih (Nat.lt_of_succ_lt_succ hi)
            exact ⟨b :: pre, a, post, rfl, ha, List.countP_cons_of_pos hb⟩
      · rw [List.countP_cons_of_neg hb] at hi
        obtain ⟨pre, a, post, rfl, ha, rfl⟩ := ih hi
        exact ⟨b :: pre, a, post, rfl, ha, List.countP_cons_of_neg hb⟩

/-! ### Counting -/

variable [DecidableEq α]

/-- The numbers of times that any two elements of `S` are in the list differ by at most `d`. -/
def Level (d : Nat) (S : Finset α) (l : List α) : Prop :=
  ∀ a ∈ S, ∀ b ∈ S, l.count a ≤ l.count b + d

theorem Level.append {d e : Nat} {l' : List α} (h : Level d S l) (h' : Level e S l') :
    Level (d + e) S (l ++ l') := by
  intro a ha b hb
  have hl := h a ha b hb
  have hl' := h' a ha b hb
  rw [List.count_append, List.count_append]
  omega

theorem sum_count (hl : ∀ a ∈ l, a ∈ S) : ∑ a ∈ S, l.count a = l.length := by
  have hsum := Multiset.sum_count_eq_card (s := S) (m := (l : Multiset α)) hl
  simpa only [Multiset.coe_count, Multiset.coe_card] using hsum

/-- Some element comes no more often than the rounds there were. -/
theorem exists_count_le (hl : ∀ a ∈ l, a ∈ S) (hS : S.Nonempty) :
    ∃ b ∈ S, l.count b ≤ l.length / S.card := by
  by_contra hno
  have hmore : ∀ b ∈ S, l.length / S.card + 1 ≤ l.count b := fun b hb =>
    Nat.succ_le_of_lt (Nat.lt_of_not_le fun hle => hno ⟨b, hb, hle⟩)
  have hsum := S.card_nsmul_le_sum _ _ hmore
  rw [sum_count hl, smul_eq_mul] at hsum
  exact absurd (Nat.lt_mul_div_succ l.length hS.card_pos) (Nat.not_lt.mpr hsum)

/-- **After whole rounds** every element has come equally often. -/
theorem Level.count_eq (h : Level 1 S l) (hl : ∀ a ∈ l, a ∈ S) {q : Nat}
    (hlength : l.length = S.card * q) {a : α} (ha : a ∈ S) : l.count a = q := by
  have hsum : ∑ b ∈ S, l.count b = ∑ _b ∈ S, q := by
    rw [sum_count hl, hlength, Finset.sum_const, smul_eq_mul]
  rcases Nat.lt_trichotomy (l.count a) q with hless | heq | hmore
  · have hlt : ∑ b ∈ S, l.count b < ∑ _b ∈ S, q := by
      refine Finset.sum_lt_sum (fun b hb => ?_) ⟨a, ha, hless⟩
      exact Nat.le_trans (h b hb a ha) hless
    exact absurd hsum (Nat.ne_of_lt hlt)
  · exact heq
  · have hlt : ∑ _b ∈ S, q < ∑ b ∈ S, l.count b := by
      refine Finset.sum_lt_sum (fun b hb => ?_) ⟨a, ha, hmore⟩
      exact Nat.le_of_succ_le_succ (Nat.le_trans hmore (h a ha b hb))
    exact absurd hsum.symm (Nat.ne_of_lt hlt)

/-! ### Rounds -/

/-- If the finished rounds are level, only the last one makes a difference. -/
theorem count_eq_add_drop (hfinished : Level 1 S (l.take (finished S.card l))) (hl : ∀ a ∈ l, a ∈ S)
    {a : α} (ha : a ∈ S) :
    l.count a = l.length / S.card + (l.drop (finished S.card l)).count a := by
  have hlength : (l.take (finished S.card l)).length = S.card * (l.length / S.card) :=
    List.length_take_of_le (Nat.mul_div_le _ _)
  have hrounds := hfinished.count_eq (fun b hb => hl b (List.mem_of_mem_take hb)) hlength ha
  calc l.count a = (l.take (finished S.card l) ++ l.drop (finished S.card l)).count a := by
        rw [List.take_append_drop]
    _ = l.length / S.card + (l.drop (finished S.card l)).count a := by
        rw [List.count_append, hrounds]

/-- **One more choice** keeps the level exactly if it is not in the last round yet. -/
theorem level_concat_iff (hfinished : Level 1 S (l.take (finished S.card l))) (h : Level 1 S l)
    (hl : ∀ a ∈ l, a ∈ S) {x : α} (hx : x ∈ S) :
    Level 1 S (l ++ [x]) ↔ x ∉ l.drop (finished S.card l) := by
  have hcount := fun {a : α} (ha : a ∈ S) => count_eq_add_drop hfinished hl ha
  constructor
  · intro hlevel hmem
    obtain ⟨b, hb, hleast⟩ := exists_count_le hl ⟨x, hx⟩
    have hmore : l.length / S.card + 1 ≤ l.count x := by
      rw [hcount hx]
      exact Nat.add_le_add_left (List.count_pos_iff.mpr hmem) _
    have hne : x ≠ b := by
      rintro rfl
      omega
    have htwo := hlevel x hx b hb
    rw [List.count_append, List.count_append, List.count_singleton_self,
      List.count_singleton, if_neg (by simpa using hne)] at htwo
    omega
  · intro hmem a ha b hb
    have hfew : l.count x = l.length / S.card := by
      rw [hcount hx, List.count_eq_zero.mpr hmem, Nat.add_zero]
    have hleast : l.length / S.card ≤ l.count b := by
      rw [hcount hb]
      exact Nat.le_add_right _ _
    rw [List.count_append, List.count_append]
    by_cases hax : x = a
    · subst hax
      rw [List.count_singleton_self, hfew]
      omega
    · have hle := h a ha x hx
      rw [List.count_singleton, if_neg (by simpa using hax)]
      omega

/-- **All along level.**  The choices are level up to one all along exactly if no element comes
twice in a round. -/
theorem level_prefixes_iff (hl : ∀ a ∈ l, a ∈ S) :
    (∀ p, p <+: l → Level 1 S p) ↔
      ∀ i j a, i < j → l[i]? = some a → l[j]? = some a → i / S.card ≠ j / S.card := by
  induction l using List.reverseRecOn with
  | nil =>
      refine iff_of_true (fun p hp => ?_) fun i j a _ h => ?_
      · rw [List.prefix_nil.mp hp]
        exact fun _ _ _ _ => Nat.zero_le _
      · cases h
  | append_singleton l x ih =>
      have hold : ∀ a ∈ l, a ∈ S := fun a ha => hl a (List.mem_append_left _ ha)
      have hx : x ∈ S := hl x (List.mem_append_right _ List.mem_cons_self)
      have hcard : 0 < S.card := Finset.card_pos.mpr ⟨x, hx⟩
      simp only [List.prefix_concat_iff, forall_eq_or_imp]
      constructor
      · rintro ⟨hnew, hlevel⟩ i j a hij hi hj hround
        rcases Nat.lt_or_ge j l.length with hlt | hge
        · rw [List.getElem?_append_left (by omega)] at hi hj
          exact (ih hold).mp hlevel i j a hij hi hj hround
        · -- the second one is the new choice
          have hj' : j < l.length + 1 := by
            simpa using (List.getElem?_eq_some_iff.mp hj).1
          obtain rfl : j = l.length := by omega
          obtain rfl : x = a := by simpa using hj
          rw [List.getElem?_append_left hij] at hi
          refine (level_concat_iff (hlevel _ (List.take_prefix _ _)) (hlevel _ (List.prefix_refl _))
            hold hx).mp hnew ?_
          exact (mem_drop_finished_iff hcard).mpr ⟨i, hij, hi, hround⟩
      · intro h
        have hlevel : ∀ p, p <+: l → Level 1 S p := by
          refine (ih hold).mpr fun i j a hij hi hj => ?_
          have hlt : j < l.length := (List.getElem?_eq_some_iff.mp hj).1
          refine h i j a hij ?_ ?_
          · rwa [List.getElem?_append_left (by omega)]
          · rwa [List.getElem?_append_left hlt]
        refine ⟨(level_concat_iff (hlevel _ (List.take_prefix _ _)) (hlevel _ (List.prefix_refl _))
          hold hx).mpr fun hmem => ?_, hlevel⟩
        obtain ⟨i, hlt, hi, hround⟩ := (mem_drop_finished_iff hcard).mp hmem
        refine h i l.length x hlt ?_ (List.getElem?_concat_length) hround
        rwa [List.getElem?_append_left hlt]

/-! ### A counter -/

/-- **Consecutive turns are level**: the values of a counter from `c` on, modulo `k`. -/
theorem level_window (k c n : Nat) :
    Level 1 (Finset.range k) ((List.range' c n).map (· % k)) := by
  rcases Nat.eq_zero_or_pos k with rfl | hk
  · intro a ha
    exact absurd ha (Finset.notMem_empty a)
  · refine (level_prefixes_iff fun a ha => ?_).mpr (fun i j a hij hi hj => ?_) _
      (List.prefix_refl _)
    · obtain ⟨t, -, rfl⟩ := List.mem_map.mp ha
      exact Finset.mem_range.mpr (Nat.mod_lt t hk)
    · intro hround
      rw [Finset.card_range] at hround
      have hturn : ∀ {m : Nat}, ((List.range' c n).map (· % k))[m]? = some a → (c + m) % k = a := by
        intro m hm
        obtain ⟨hlt, rfl⟩ := List.getElem?_eq_some_iff.mp hm
        rw [List.getElem_map, List.getElem_range', Nat.one_mul]
      have hmod : c + i ≡ c + j [MOD k] := (hturn hi).trans (hturn hj).symm
      have hsame : i % k = j % k := Nat.ModEq.add_left_cancel' c hmod
      have hij' : i = j := by
        rw [← Nat.div_add_mod i k, ← Nat.div_add_mod j k, hround, hsame]
      omega

/-- The values up to `w` are their own remainders. -/
theorem map_mod_mod {w k c n : Nat} (h : c + n ≤ w) :
    (List.range' c n).map (fun t => t % w % k) = (List.range' c n).map (· % k) := by
  refine List.map_congr_left fun t ht => ?_
  have hlt := (List.mem_range'_1.mp ht).2
  rw [Nat.mod_eq_of_lt (by omega : t < w)]

/-- **A counter that wraps at `w`** is level up to one before it does, and up to two when it has
done so once. -/
theorem level_wrapping {w c n : Nat} (k : Nat) (hc : c < w) (hn : n ≤ w) :
    Level (if c + n ≤ w then 1 else 2) (Finset.range k)
      ((List.range' c n).map fun t => t % w % k) := by
  split
  · rename_i hle
    rw [map_mod_mod hle]
    exact level_window k c n
  · -- the turns up to the wrap, and those from zero on
    rename_i hwraps
    have hsplit : List.range' c n = List.range' c (w - c) ++
        (List.range' 0 (c + n - w)).map (w + ·) := by
      have hstart : w + 0 = c + (w - c) := by omega
      rw [List.map_add_range', hstart, List.range'_append_1, show w - c + (c + n - w) = n by omega]
    have hafter : ((List.range' 0 (c + n - w)).map (w + ·)).map (fun t => t % w % k) =
        (List.range' 0 (c + n - w)).map (fun t => t % w % k) := by
      rw [List.map_map]
      refine List.map_congr_left fun t _ => ?_
      rw [Function.comp_apply, Nat.add_mod_left]
    rw [hsplit, List.map_append, hafter, map_mod_mod (by omega), map_mod_mod (by omega)]
    exact (level_window k c (w - c)).append (level_window k 0 (c + n - w))

end MiniGateway.Rounds
