import MiniGateway.Support.Text

/-!
# Support — Url

What a URL parser makes of a text: the authority it connects to (`authorityOf`), and the path
with its dot segments resolved (`norm`).

* `authorityOf_append`: a text that starts with a slash, or nothing, followed by a query or
  nothing, leaves the authority before it as it is.
* `norm_of_dotFree`: a path without dot segments is its own normal form; and `norm_shorter`: one
  with a dot segment is longer than its normal form.
* `norm_stays`: dot segments that never climb over a base leave the base as it is.
-/

namespace MiniGateway.Url

/-- Nothing, or a text that starts with a slash. -/
def Rooted (t : Text) : Prop := t = [] ∨ ∃ r, t = '/' :: r

/-! ### The authority -/

/-- The characters an authority ends at. -/
def isDelimiter (c : Char) : Bool := c ∈ ['/', '?', '#', '\\']

/-- What follows the first `://`. -/
def afterScheme : Text → Text
  | ':' :: '/' :: '/' :: rest => rest
  | _ :: rest => afterScheme rest
  | [] => []

def authorityOf (url : Text) : Text := (afterScheme url).takeWhile fun c => !isDelimiter c

/-- `url` is `scheme://authority`. -/
structure IsOrigin (url scheme authority : Text) : Prop where
  eq : url = scheme ++ ':' :: '/' :: '/' :: authority
  scheme_plain : ':' ∉ scheme
  authority_plain : authority.any isDelimiter = false

theorem afterScheme_append {scheme : Text} (h : ':' ∉ scheme) (rest : Text) :
    afterScheme (scheme ++ ':' :: '/' :: '/' :: rest) = rest := by
  induction scheme with
  | nil => rfl
  | cons c scheme ih =>
      have hc : c ≠ ':' := fun e => h (by simp [e])
      have hs : ':' ∉ scheme := fun m => h (by simp [m])
      rw [List.cons_append, afterScheme, ih hs]
      exact fun _ he => absurd he hc

/-- **The authority is fixed by what stands before the first slash or question mark.** -/
theorem authorityOf_append {url scheme authority : Text} (h : IsOrigin url scheme authority)
    {t : Text} (ht : Rooted t) (query : Option Text) :
    authorityOf (url ++ t ++ query.elim [] ('?' :: ·)) = authority := by
  obtain ⟨rfl, hs, ha⟩ := h
  have hkeep : ∀ c ∈ authority, (!isDelimiter c) = true := fun c hc =>
    Bool.not_eq_true' _ ▸ Bool.eq_false_iff.mpr (List.any_eq_false.mp ha c hc)
  have hstop : (t ++ query.elim [] ('?' :: ·)).takeWhile (fun c => !isDelimiter c) = [] := by
    rcases ht with rfl | ⟨r, rfl⟩
    · cases query <;> rfl
    · rfl
  rw [List.append_assoc, List.append_assoc, List.cons_append, List.cons_append, List.cons_append,
    authorityOf, afterScheme_append hs, List.takeWhile_append_of_pos hkeep, hstop,
    List.append_nil]

/-! ### Dot segments -/

/-- `.`, also in its percent spelling. -/
def isSingleDot (s : Text) : Bool := [['.'], ['%', '2', 'e']].contains (s.map Char.toLower)

/-- `..`, also in its percent spellings. -/
def isDoubleDot (s : Text) : Bool :=
  [['.', '.'], ['.', '%', '2', 'e'], ['%', '2', 'e', '.'],
    ['%', '2', 'e', '%', '2', 'e']].contains (s.map Char.toLower)

/-- A dot segment. -/
def isDot (s : Text) : Bool := isDoubleDot s || isSingleDot s

/-- Each segment behind a slash. -/
def render (segments : List Text) : Text := segments.flatMap ('/' :: ·)

/-- One segment more; `kept` holds the segments kept so far, the last one first. -/
def keep (kept : List Text) (s : Text) : List Text :=
  if isDoubleDot s then kept.tail else if isSingleDot s then kept else s :: kept

/-- Resolve dot segments from left to right; one at the end leaves an empty segment. -/
def resolve : List Text → List Text → List Text
  | kept, [] => kept.reverse
  | kept, s :: rest =>
      if rest = [] ∧ isDot s then ([] :: keep kept s).reverse else resolve (keep kept s) rest

/-- The path with its dot segments resolved; a text that does not start with a slash is none. -/
def norm : Text → Text
  | '/' :: r => render (resolve [] (Text.pieces r '/'))
  | p => p

/-- No segment is a dot segment. -/
def DotFree (segments : List Text) : Prop := ∀ s ∈ segments, isDot s = false

instance (segments : List Text) : Decidable (DotFree segments) :=
  inferInstanceAs (Decidable (∀ _ ∈ _, _))

@[simp] theorem render_append (a b : List Text) : render (a ++ b) = render a ++ render b :=
  List.flatMap_append

theorem render_pieces (r : Text) : render (Text.pieces r '/') = '/' :: r := by
  have hcons : ∀ segments : List Text, segments ≠ [] →
      render segments = '/' :: ['/'].intercalate segments := by
    intro segments
    induction segments with
    | nil => exact fun h => absurd rfl h
    | cons s rest ih =>
        intro _
        rcases rest with _ | ⟨s', rest⟩
        · simp [render]
        · show '/' :: (s ++ render (s' :: rest)) = _
          rw [ih (List.cons_ne_nil _ _), List.intercalate_cons_cons, List.append_assoc,
            List.singleton_append]
  rw [Text.pieces, hcons _ (List.splitOn_ne_nil _ _), List.intercalate_splitOn]

theorem keep_plain {s : Text} (h : isDot s = false) (kept : List Text) :
    keep kept s = s :: kept := by
  obtain ⟨hd, hs⟩ := Bool.or_eq_false_iff.mp h
  rw [keep, hd, hs]
  rfl

/-- Segments that are no dot segments are kept. -/
theorem resolve_append {plain : List Text} (h : DotFree plain) (kept rest : List Text) :
    resolve kept (plain ++ rest) = resolve (plain.reverse ++ kept) rest := by
  induction plain generalizing kept with
  | nil => rfl
  | cons s plain ih =>
      have hs : isDot s = false := h s List.mem_cons_self
      have hrest : DotFree plain := fun t ht => h t (List.mem_cons_of_mem s ht)
      rw [List.cons_append, resolve, if_neg (fun hc => by simp [hs] at hc), keep_plain hs,
        ih hrest, List.reverse_cons, List.append_assoc]
      rfl

/-- The first segment of a path that starts with a slash is empty. -/
theorem pieces_slash (r : Text) : Text.pieces ('/' :: r) '/' = [] :: Text.pieces r '/' :=
  List.splitOn_append_cons_self [] r

theorem dotFree_slash {r : Text} :
    DotFree (Text.pieces ('/' :: r) '/') ↔ DotFree (Text.pieces r '/') := by
  rw [pieces_slash]
  refine ⟨fun h s hs => h s (List.mem_cons_of_mem _ hs), fun h s hs => ?_⟩
  rcases List.mem_cons.mp hs with rfl | hs
  · rfl
  · exact h s hs

/-- **A path without dot segments is its own normal form.** -/
theorem norm_of_dotFree {p : Text} (h : DotFree (Text.pieces p '/')) : norm p = p := by
  rw [norm.eq_def]
  split
  · rename_i r
    have hkeep := resolve_append (dotFree_slash.mp h) [] []
    rw [List.append_nil, List.append_nil, resolve, List.reverse_reverse] at hkeep
    rw [hkeep, render_pieces]
  · rfl

/-- Something is left of one segment or more. -/
theorem resolve_ne_nil (segments : List Text) : ∀ kept : List Text, segments ≠ [] →
    resolve kept segments ≠ [] := by
  induction segments with
  | nil => exact fun _ h => absurd rfl h
  | cons s rest ih =>
      intro kept _
      rw [resolve]
      split
      · exact List.reverse_ne_nil_iff.mpr (List.cons_ne_nil _ _)
      · rename_i h
        by_cases hrest : rest = []
        · have hs : isDot s = false := Bool.eq_false_iff.mpr fun hs => h ⟨hrest, hs⟩
          rw [hrest, resolve, keep_plain hs]
          exact List.reverse_ne_nil_iff.mpr (List.cons_ne_nil _ _)
        · exact ih _ hrest

theorem render_rooted {segments : List Text} (h : segments ≠ []) :
    ∃ r, render segments = '/' :: r := by
  obtain ⟨s, rest, rfl⟩ := List.exists_cons_of_ne_nil h
  exact ⟨s ++ render rest, rfl⟩

/-- What is left of a text split at the slashes starts with one. -/
theorem render_resolve_rooted (r : Text) :
    ∃ r', render (resolve [] (Text.pieces r '/')) = '/' :: r' :=
  render_rooted (resolve_ne_nil _ _ (List.splitOn_ne_nil _ _))

/-- A segment that is left is empty, or was there. -/
theorem mem_resolve {s : Text} (segments : List Text) : ∀ kept : List Text,
    s ∈ resolve kept segments → s = [] ∨ s ∈ kept ∨ s ∈ segments := by
  have hkeep : ∀ (kept : List Text) (t : Text), s ∈ keep kept t → s ∈ kept ∨ s = t := by
    intro kept t h
    rw [keep] at h
    split at h
    · exact Or.inl (List.mem_of_mem_tail h)
    · split at h
      · exact Or.inl h
      · exact (List.mem_cons.mp h).symm
  induction segments with
  | nil => exact fun kept h => Or.inr (Or.inl (List.mem_reverse.mp h))
  | cons t rest ih =>
      intro kept h
      have hin : s = [] ∨ s ∈ keep kept t ∨ s ∈ rest := by
        rw [resolve] at h
        split at h
        · rcases List.mem_cons.mp (List.mem_reverse.mp h) with h | h
          · exact Or.inl h
          · exact Or.inr (Or.inl h)
        · exact ih _ h
      rcases hin with h | h | h
      · exact Or.inl h
      · rcases hkeep kept t h with h | rfl
        · exact Or.inr (Or.inl h)
        · exact Or.inr (Or.inr List.mem_cons_self)
      · exact Or.inr (Or.inr (List.mem_cons_of_mem t h))

/-- Resolving adds no character but slashes. -/
theorem mem_render_resolve {c : Char} {r : Text}
    (h : c ∈ render (resolve [] (Text.pieces r '/'))) : c = '/' ∨ c ∈ r := by
  obtain ⟨s, hs, hc⟩ := List.mem_flatMap.mp h
  rcases List.mem_cons.mp hc with hc | hc
  · exact Or.inl hc
  · rcases mem_resolve _ _ hs with rfl | hs | hs
    · exact absurd hc List.not_mem_nil
    · exact absurd hs List.not_mem_nil
    · have hr : c ∈ render (Text.pieces r '/') :=
        List.mem_flatMap.mpr ⟨s, hs, List.mem_cons_of_mem _ hc⟩
      rw [render_pieces] at hr
      exact List.mem_cons.mp hr

/-! ### Normal forms are shorter -/

theorem length_render_cons (s : Text) (segments : List Text) :
    (render (s :: segments)).length = s.length + 1 + (render segments).length := by
  show ('/' :: (s ++ render segments)).length = _
  rw [List.length_cons, List.length_append]
  omega

theorem length_render_reverse (segments : List Text) :
    (render segments.reverse).length = (render segments).length := by
  simp [render, List.length_flatMap, List.sum_reverse]

/-- A dot segment is dropped, and nothing is kept in its place. -/
theorem length_keep_dot {s : Text} (h : isDot s = true) (kept : List Text) :
    (render (keep kept s)).length ≤ (render kept).length ∧ 0 < s.length := by
  have hpos : 0 < s.length := List.length_pos_iff.mpr fun he => by subst he; cases h
  refine ⟨?_, hpos⟩
  rw [keep]
  split
  · cases kept with
    | nil => exact Nat.le_refl _
    | cons t kept => rw [length_render_cons, List.tail_cons]; omega
  · rename_i hd
    have hs : isSingleDot s = true := (Bool.or_eq_true_iff.mp h).resolve_left hd
    exact Nat.le_of_eq (congrArg (fun l => (render l).length) (if_pos hs))

/-- Resolving makes no path longer, and one with a dot segment shorter. -/
theorem length_resolve (segments : List Text) : ∀ kept : List Text,
    (render (resolve kept segments)).length ≤ (render kept).length + (render segments).length ∧
    (¬ DotFree segments → (render (resolve kept segments)).length <
      (render kept).length + (render segments).length) := by
  induction segments with
  | nil =>
      intro kept
      refine ⟨?_, fun h => absurd (fun _ hs => absurd hs List.not_mem_nil) h⟩
      rw [resolve, length_render_reverse]
      exact Nat.le_add_right _ _
  | cons s rest ih =>
      intro kept
      rw [resolve, length_render_cons]
      cases hs : isDot s with
      | true =>
          obtain ⟨hkeep, hpos⟩ := length_keep_dot hs kept
          -- at the end, the empty segment that is left is shorter than the dot segment
          by_cases hrest : rest = []
          · rw [if_pos ⟨hrest, rfl⟩, length_render_reverse, length_render_cons, List.length_nil]
            exact ⟨by omega, fun _ => by omega⟩
          · rw [if_neg fun h => hrest h.1]
            have hle := (ih (keep kept s)).1
            exact ⟨by omega, fun _ => by omega⟩
      | false =>
          rw [if_neg fun h => absurd h.2 Bool.false_ne_true, keep_plain hs]
          obtain ⟨hle, hlt⟩ := ih (s :: kept)
          rw [length_render_cons] at hle hlt
          refine ⟨by omega, fun h => ?_⟩
          have hdots : ¬ DotFree rest := fun hfree => h fun t ht => by
            rcases List.mem_cons.mp ht with rfl | ht
            · exact hs
            · exact hfree t ht
          have := hlt hdots
          omega

/-- **A path with a dot segment is longer than its normal form.** -/
theorem norm_shorter {r : Text} (h : ¬ DotFree (Text.pieces ('/' :: r) '/')) :
    (norm ('/' :: r)).length < ('/' :: r).length := by
  have hlt := (length_resolve (Text.pieces r '/') []).2 (mt dotFree_slash.mpr h)
  rw [render_pieces] at hlt
  rw [norm]
  exact Nat.lt_of_lt_of_le hlt (Nat.le_of_eq (Nat.zero_add _))

/-! ### Staying below a base -/

/-- `..` never outnumbers the segments before it, `depth` of which stand in front. -/
def stays : Nat → List Text → Bool
  | _, [] => true
  | depth, s :: rest =>
      if isDoubleDot s then decide (0 < depth) && stays (depth - 1) rest
      else if isSingleDot s then stays depth rest
      else stays (depth + 1) rest

/-- Segments below the ones that `..` reaches stay. -/
theorem resolve_stays (base segments : List Text) : ∀ kept : List Text,
    stays kept.length segments = true →
    resolve (kept ++ base) segments = base.reverse ++ resolve kept segments := by
  induction segments with
  | nil => intro kept _; rw [resolve, resolve, List.reverse_append]
  | cons s rest ih =>
      intro kept h
      -- the segments of the base are never the ones dropped
      have hkeep : keep (kept ++ base) s = keep kept s ++ base ∧
          stays (keep kept s).length rest = true := by
        rw [stays] at h
        rw [keep, keep]
        split at h
        · rename_i hd
          obtain ⟨hpos, hrest⟩ := Bool.and_eq_true_iff.mp h
          obtain ⟨t, kept, rfl⟩ := List.exists_cons_of_length_pos (of_decide_eq_true hpos)
          rw [if_pos hd, if_pos hd]
          exact ⟨rfl, hrest⟩
        · rename_i hd
          rw [if_neg hd, if_neg hd]
          split at h
          · rename_i hs
            rw [if_pos hs, if_pos hs]
            exact ⟨rfl, h⟩
          · rename_i hs
            rw [if_neg hs, if_neg hs]
            exact ⟨rfl, h⟩
      obtain ⟨heq, hstays⟩ := hkeep
      rw [resolve, resolve, heq]
      split
      · rw [← List.cons_append, List.reverse_append]
      · exact ih _ hstays

/-- **Dot segments that never climb over the base leave it as it is.** -/
theorem norm_stays {base t : Text} (hbase : DotFree (Text.pieces base '/'))
    (ht : stays 0 (Text.pieces t '/') = true) :
    norm ('/' :: base ++ '/' :: t) =
      '/' :: base ++ render (resolve [] (Text.pieces t '/')) := by
  have hsplit : Text.pieces (base ++ '/' :: t) '/' = Text.pieces base '/' ++ Text.pieces t '/' :=
    List.splitOn_append_cons_self base t
  rw [List.cons_append, norm, hsplit, resolve_append hbase, List.append_nil]
  have hstay := resolve_stays (Text.pieces base '/').reverse (Text.pieces t '/') [] ht
  rw [List.nil_append] at hstay
  rw [hstay, List.reverse_reverse, render_append, render_pieces]

end MiniGateway.Url
