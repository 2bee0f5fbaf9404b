import MiniGateway.Support.Text

/-!
# Support — Regex

Regular expressions with anchors, as far as escaped literals between anchors need them: literal
characters, `.`, `^`, `$`, grouping, `?` and `*`.

* `Re.Matches r b m a`: `r` matches `m` between the text `b` before it and the text `a` after
  it.  The two contexts are what the anchors read.
* `Re.Search r x`: `r` matches somewhere in `x` — an unanchored search.
* `parse` reads the concrete syntax; `escape` puts a backslash before every metacharacter, and
  an escaped text reads back as itself, character by character (`parseFrom_escape`).
* `Engine` is a regex library: compile, match, escape.  `Engine.Documented` says that it reads
  the concrete syntax and searches.  `reference` is such an engine (`reference_documented`), a
  list-of-successes matcher.

The two patterns a path matcher builds are `^lit$` and `^lit(/.*)?$`; `search_exact` and
`search_subtree` say which texts they find.
-/

namespace MiniGateway.Regex

/-- The expressions of the fragment. -/
inductive Re where
  | eps
  | lit (c : Char)
  | any
  | start
  | stop
  | cat (r s : Re)
  | opt (r : Re)
  | star (r : Re)
  deriving DecidableEq, Repr

/-- Zero or more consecutive matches of `P`. -/
inductive Iter (P : Text → Text → Text → Prop) : Text → Text → Text → Prop where
  | nil (b a : Text) : Iter P b [] a
  | cons {b u v a : Text} (h : P b u (v ++ a)) (t : Iter P (b ++ u) v a) : Iter P b (u ++ v) a

namespace Re

/-- `r` matches `m`, standing after `b` and before `a`. -/
def Matches : Re → Text → Text → Text → Prop
  | .eps, _, m, _ => m = []
  | .lit c, _, m, _ => m = [c]
  | .any, _, m, _ => ∃ c, m = [c] ∧ c ≠ '\n'
  | .start, b, m, _ => m = [] ∧ b = []
  | .stop, _, m, a => m = [] ∧ a = []
  | .cat r s, b, m, a => ∃ u v, m = u ++ v ∧ r.Matches b u (v ++ a) ∧ s.Matches (b ++ u) v a
  | .opt r, b, m, a => m = [] ∨ r.Matches b m a
  | .star r, b, m, a => Iter r.Matches b m a

/-- `r` matches somewhere in `x`. -/
def Search (r : Re) (x : Text) : Prop := ∃ b m a, x = b ++ (m ++ a) ∧ r.Matches b m a

/-- The concatenation of a list of expressions. -/
def seq (rs : List Re) : Re := rs.foldr .cat .eps

/-- A literal text, character by character. -/
def lits (s : Text) : List Re := s.map .lit

end Re

open Re

/-! ### The concrete syntax -/

/-- The characters `escape` escapes. -/
def isMeta (c : Char) : Bool := c ∈ "\\.+*?()|[]\x7b\x7d^$#&-~".toList

/-- Every metacharacter behind a backslash. -/
def escape (s : Text) : Text := s.flatMap fun c => if isMeta c then ['\\', c] else [c]

/-- Read a pattern.  `up` holds the items before each open group, `cur` the items of the group
being read; both are in reverse order. -/
def parseFrom : List (List Re) → List Re → Text → Option Re
  | [], cur, [] => some (seq cur.reverse)
  | _ :: _, _, [] => none
  | up, cur, '\\' :: c :: rest => if isMeta c then parseFrom up (.lit c :: cur) rest else none
  | up, cur, '.' :: rest => parseFrom up (.any :: cur) rest
  | up, cur, '^' :: rest => parseFrom up (.start :: cur) rest
  | up, cur, '$' :: rest => parseFrom up (.stop :: cur) rest
  | up, cur, '(' :: rest => parseFrom (cur :: up) [] rest
  | out :: up, cur, ')' :: rest => parseFrom up (seq cur.reverse :: out) rest
  | up, r :: cur, '?' :: rest => parseFrom up (.opt r :: cur) rest
  | up, r :: cur, '*' :: rest => parseFrom up (.star r :: cur) rest
  | up, cur, c :: rest => if isMeta c then none else parseFrom up (.lit c :: cur) rest

/-- The expression a pattern stands for, when the pattern lies in the fragment. -/
def parse (pat : Text) : Option Re := parseFrom [] [] pat

theorem parseFrom_plain {c : Char} (h : isMeta c = false) (up : List (List Re)) (cur : List Re)
    (rest : Text) : parseFrom up cur (c :: rest) = parseFrom up (.lit c :: cur) rest := by
  have ne : ∀ d, isMeta d = true → c ≠ d := fun d hd e => by rw [e, hd] at h; cases h
  rw [parseFrom.eq_def]
  split
  all_goals first
    | (rename_i heq; exact absurd (List.cons.inj heq).1 (ne _ (by decide)))
    | simp_all

/-- **An escaped text reads back as itself.**  Whatever stands around it, the reader takes
`escape s` for the literal `s`. -/
theorem parseFrom_escape (s : Text) :
    ∀ (up : List (List Re)) (cur : List Re) (rest : Text),
      parseFrom up cur (escape s ++ rest) = parseFrom up ((lits s).reverse ++ cur) rest := by
  induction s with
  | nil => intro up cur rest; rfl
  | cons c s ih =>
      intro up cur rest
      have hcur : (lits (c :: s)).reverse ++ cur = (lits s).reverse ++ (.lit c :: cur) := by
        simp [lits]
      rw [hcur, ← ih]
      by_cases hc : isMeta c = true
      · have he : escape (c :: s) ++ rest = '\\' :: c :: (escape s ++ rest) := by
          simp [escape, hc]
        rw [he, parseFrom, if_pos hc]
      · have he : escape (c :: s) ++ rest = c :: (escape s ++ rest) := by simp [escape, hc]
        rw [he, parseFrom_plain (by simpa using hc)]

/-- `^lit$`. -/
def exact (s : Text) : Text := "^" ++ escape s ++ "$"

/-- `^lit(/.*)?$`. -/
def subtree (s : Text) : Text := "^" ++ escape s ++ "(/.*)?$"

/-- The expression `^lit$` stands for. -/
def exactRe (s : Text) : Re := seq (.start :: (lits s ++ [.stop]))

/-- The expression `^lit(/.*)?$` stands for. -/
def subtreeRe (s : Text) : Re :=
  seq (.start :: (lits s ++ [.opt (seq [.lit '/', .star .any]), .stop]))

theorem parse_exact (s : Text) : parse (exact s) = some (exactRe s) := by
  have h : exact s = '^' :: (escape s ++ ['$']) := by simp [exact]
  rw [parse, h, parseFrom, parseFrom_escape, parseFrom, parseFrom]
  simp [exactRe]

theorem parse_subtree (s : Text) : parse (subtree s) = some (subtreeRe s) := by
  have h : subtree s = '^' :: (escape s ++ "(/.*)?$".toList) := by simp [subtree]
  have htail : ∀ cur, parseFrom [] cur "(/.*)?$".toList =
      some (seq (cur.reverse ++ [.opt (seq [.lit '/', .star .any]), .stop])) := by
    intro cur
    have hp : "(/.*)?$".toList = ['(', '/', '.', '*', ')', '?', '$'] := rfl
    have hslash : isMeta '/' = false := by decide
    rw [hp, parseFrom, parseFrom_plain hslash]
    simp only [parseFrom]
    simp
  rw [parse, h, parseFrom, parseFrom_escape, htail]
  simp [subtreeRe]

/-! ### What the two patterns find -/

theorem matches_seq_lits (s : Text) : ∀ {rs : List Re} {b m a : Text},
    (seq (lits s ++ rs)).Matches b m a ↔ ∃ m', m = s ++ m' ∧ (seq rs).Matches (b ++ s) m' a := by
  induction s with
  | nil => intro rs b m a; simp [lits]
  | cons c s ih =>
      intro rs b m a
      have hs : seq (lits (c :: s) ++ rs) = .cat (.lit c) (seq (lits s ++ rs)) := rfl
      rw [hs, Matches]
      refine ⟨?_, ?_⟩
      · rintro ⟨u, v, rfl, hu, hv⟩
        obtain ⟨m', rfl, hm⟩ := ih.mp hv
        cases hu
        exact ⟨m', rfl, by simpa using hm⟩
      · rintro ⟨m', rfl, hm⟩
        exact ⟨[c], s ++ m', rfl, rfl, ih.mpr ⟨m', rfl, by simpa using hm⟩⟩

/-- `.*` matches the newline-free texts. -/
theorem iter_any_iff {b m a : Text} : Iter (Re.Matches .any) b m a ↔ '\n' ∉ m := by
  refine ⟨?_, ?_⟩
  · intro h
    induction h with
    | nil => simp
    | cons h _ ih =>
        obtain ⟨c, rfl, hc⟩ := h
        simp only [List.mem_append, List.mem_singleton, not_or]
        exact ⟨fun e => hc e.symm, ih⟩
  · intro h
    induction m generalizing b with
    | nil => exact .nil b a
    | cons c m ih =>
        simp only [List.mem_cons, not_or] at h
        exact Iter.cons (u := [c]) ⟨c, rfl, fun e => h.1 e.symm⟩ (ih h.2)

/-- An expression behind `^` finds what it matches from the start of the text on. -/
theorem search_start {rs : List Re} {x : Text} :
    (seq (.start :: rs)).Search x ↔ ∃ m a, x = m ++ a ∧ (seq rs).Matches [] m a := by
  refine ⟨?_, ?_⟩
  · rintro ⟨b, m, a, rfl, u, v, rfl, ⟨rfl, rfl⟩, hv⟩
    exact ⟨v, a, rfl, hv⟩
  · rintro ⟨m, a, rfl, hm⟩
    exact ⟨[], m, a, rfl, [], m, rfl, ⟨rfl, rfl⟩, hm⟩

theorem search_exact {s x : Text} : (exactRe s).Search x ↔ x = s := by
  rw [exactRe, search_start]
  refine ⟨?_, ?_⟩
  · rintro ⟨m, a, rfl, hm⟩
    obtain ⟨m', rfl, u, v, rfl, ⟨rfl, hv⟩, hw⟩ := (matches_seq_lits s).mp hm
    cases hw
    simpa using hv
  · rintro rfl
    refine ⟨x, [], by simp, (matches_seq_lits x).mpr ⟨[], by simp, [], [], rfl, ⟨rfl, rfl⟩, rfl⟩⟩

theorem search_subtree {s x : Text} :
    (subtreeRe s).Search x ↔ x = s ∨ ∃ t, x = s ++ '/' :: t ∧ '\n' ∉ t := by
  rw [subtreeRe, search_start]
  refine ⟨?_, ?_⟩
  · rintro ⟨m, a, rfl, hm⟩
    obtain ⟨m', rfl, u, v, rfl, hopt, u', v', rfl, ⟨rfl, ha⟩, hw⟩ := (matches_seq_lits s).mp hm
    cases hw
    obtain rfl : a = [] := by simpa using ha
    rcases hopt with rfl | ⟨p, q, rfl, hp, q', r, rfl, hq, hr⟩
    · exact Or.inl (by simp)
    · cases hp
      cases hr
      exact Or.inr ⟨q', by simp, iter_any_iff.mp hq⟩
  · rintro (rfl | ⟨t, rfl, ht⟩)
    · exact ⟨x, [], by simp, (matches_seq_lits x).mpr
        ⟨[], by simp, [], [], rfl, Or.inl rfl, [], [], rfl, ⟨rfl, rfl⟩, rfl⟩⟩
    · refine ⟨s ++ '/' :: t, [], by simp, (matches_seq_lits s).mpr
        ⟨'/' :: t, rfl, '/' :: t, [], by simp, Or.inr ?_, [], [], rfl, ⟨rfl, rfl⟩, rfl⟩⟩
      exact ⟨['/'], t, rfl, rfl, t, [], by simp, iter_any_iff.mpr ht, rfl⟩

/-! ### Engines -/

/-- A regex library: compiled expressions, compilation, matching and escaping. -/
structure Engine (ρ : Type) where
  new : Text → Except Text ρ
  isMatch : ρ → Text → Bool
  escape : Text → Text

/-- What the library documents: escaping puts a backslash before each metacharacter, and a
compiled pattern searches for the expression its text stands for.  Compilation may still fail,
on a size limit. -/
structure Engine.Documented {ρ : Type} (E : Engine ρ) : Prop where
  escape_eq : ∀ s, E.escape s = Regex.escape s
  isMatch_iff : ∀ {pat : Text} {re : Re} {r : ρ}, parse pat = some re → E.new pat = .ok r →
    ∀ x, E.isMatch r x = true ↔ re.Search x

/-! ### The reference engine -/

/-- Every way to run `f` zero or more times from `(b, x)`, each time consuming something. -/
def iterEnds (f : Text → Text → List (Text × Text)) : Nat → Text → Text → List (Text × Text)
  | 0, b, x => [(b, x)]
  | n + 1, b, x => (b, x) :: (f b x).flatMap fun p =>
      if p.2.length < x.length then iterEnds f n p.1 p.2 else []

/-- Every way `r` can match at the boundary between `b` and `x`: the boundaries after it. -/
def Re.ends : Re → Text → Text → List (Text × Text)
  | .eps, b, x => [(b, x)]
  | .lit _, _, [] | .any, _, [] => []
  | .lit c, b, d :: x => if d = c then [(b ++ [d], x)] else []
  | .any, b, d :: x => if d = '\n' then [] else [(b ++ [d], x)]
  | .start, b, x => if b = [] then [(b, x)] else []
  | .stop, b, x => if x = [] then [(b, x)] else []
  | .cat r s, b, x => (r.ends b x).flatMap fun p => s.ends p.1 p.2
  | .opt r, b, x => (b, x) :: r.ends b x
  | .star r, b, x => iterEnds r.ends x.length b x

/-- Does `r` match at this boundary, or at a later one? -/
def Re.searchFrom (r : Re) : Text → Text → Bool
  | b, [] => !(r.ends b []).isEmpty
  | b, c :: x => !(r.ends b (c :: x)).isEmpty || r.searchFrom (b ++ [c]) x

/-- The engine that compiles by `parse` and matches by listing the successes. -/
def reference : Engine Re where
  new pat := match parse pat with
    | some r => .ok r
    | none => .error "unsupported pattern"
  isMatch r x := r.searchFrom [] x
  escape := Regex.escape

/-- `p` is a boundary `P` can reach from the one between `b` and `x`. -/
def Reaches (P : Text → Text → Text → Prop) (b x : Text) (p : Text × Text) : Prop :=
  ∃ m, p.1 = b ++ m ∧ x = m ++ p.2 ∧ P b m p.2

theorem Reaches.refl {P : Text → Text → Text → Prop} {b x : Text} (h : P b [] x) :
    Reaches P b x (b, x) :=
  ⟨[], by simp, rfl, h⟩

/-- One match after another reaches what the two together do. -/
theorem Reaches.trans {P Q R : Text → Text → Text → Prop} {b x : Text} {q p : Text × Text}
    (hR : ∀ {u v a}, P b u (v ++ a) → Q (b ++ u) v a → R b (u ++ v) a)
    (h₁ : Reaches P b x q) (h₂ : Reaches Q q.1 q.2 p) : Reaches R b x p := by
  obtain ⟨u, hqb, hx, hu⟩ := h₁
  obtain ⟨v, hpb, hqx, hv⟩ := h₂
  rw [hqb] at hv hpb
  rw [hqx] at hx hu
  exact ⟨u ++ v, by rw [hpb, List.append_assoc], by rw [hx, List.append_assoc], hR hu hv⟩

/-- What only matches the empty text stays where it is. -/
theorem reaches_empty_iff {P : Text → Text → Text → Prop} {b x : Text} {p : Text × Text}
    (hP : ∀ m a, P b m a → m = []) : Reaches P b x p ↔ p = (b, x) ∧ P b [] x := by
  refine ⟨?_, ?_⟩
  · rintro ⟨m, hb, hx, hm⟩
    obtain rfl := hP m p.2 hm
    obtain rfl : x = p.2 := hx
    exact ⟨Prod.ext (by simpa using hb) rfl, hm⟩
  · rintro ⟨rfl, hm⟩
    exact .refl hm

/-- What only matches a character moves over one. -/
theorem reaches_char_iff {P : Text → Text → Text → Prop} {b x : Text} {p : Text × Text}
    (hP : ∀ m a, P b m a → ∃ c, m = [c]) :
    Reaches P b x p ↔ ∃ c y, x = c :: y ∧ p = (b ++ [c], y) ∧ P b [c] y := by
  refine ⟨?_, ?_⟩
  · rintro ⟨m, hb, hx, hm⟩
    obtain ⟨c, rfl⟩ := hP m p.2 hm
    exact ⟨c, p.2, hx, Prod.ext hb rfl, hm⟩
  · rintro ⟨c, y, rfl, rfl, hm⟩
    exact ⟨[c], rfl, rfl, hm⟩

theorem iterEnds_sound {P : Text → Text → Text → Prop} {f : Text → Text → List (Text × Text)}
    (hf : ∀ b x p, p ∈ f b x ↔ Reaches P b x p) :
    ∀ n b x p, p ∈ iterEnds f n b x → Reaches (Iter P) b x p := by
  intro n
  induction n with
  | zero =>
      intro b x p h
      obtain rfl : p = (b, x) := by simpa [iterEnds] using h
      exact .refl (.nil b x)
  | succ n ih =>
      intro b x p h
      rw [iterEnds, List.mem_cons, List.mem_flatMap] at h
      rcases h with rfl | ⟨q, hq, hp⟩
      · exact .refl (.nil b x)
      · split at hp
        · exact .trans .cons ((hf b x q).mp hq) (ih q.1 q.2 p hp)
        · cases hp

theorem iterEnds_complete {P : Text → Text → Text → Prop} {f : Text → Text → List (Text × Text)}
    (hf : ∀ b x p, p ∈ f b x ↔ Reaches P b x p) {b m a : Text} (h : Iter P b m a) :
    ∀ n, m.length ≤ n → (b ++ m, a) ∈ iterEnds f n b (m ++ a) := by
  induction h with
  | nil b a => intro n _; cases n <;> simp [iterEnds]
  | @cons b u v a hu _ ih =>
      intro n hn
      -- an iteration that consumes nothing is dropped
      cases u with
      | nil => simpa using ih n (by simpa using hn)
      | cons c u =>
          cases n with
          | zero => simp at hn
          | succ n =>
              rw [iterEnds, List.mem_cons, List.mem_flatMap]
              refine Or.inr ⟨(b ++ c :: u, v ++ a), (hf _ _ _).mpr ⟨c :: u, rfl, by simp, hu⟩, ?_⟩
              rw [if_pos (by simp only [List.length_append, List.length_cons]; omega)]
              have := ih n (by simp at hn; omega)
              simpa using this

/-- **The matcher lists the matches.** -/
theorem Re.mem_ends (r : Re) : ∀ b x p, p ∈ r.ends b x ↔ Reaches r.Matches b x p := by
  induction r with
  | eps =>
      intro b x p
      rw [reaches_empty_iff fun _ _ h => h]
      simp [ends, Matches]
  | lit c =>
      intro b x p
      rw [reaches_char_iff fun _ _ h => ⟨c, h⟩]
      cases x with
      | nil => simp [ends]
      | cons d x => by_cases hd : d = c <;> simp [ends, Matches, hd]
  | any =>
      intro b x p
      rw [reaches_char_iff fun _ _ ⟨c, h, _⟩ => ⟨c, h⟩]
      cases x with
      | nil => simp [ends]
      | cons d x => by_cases hd : d = '\n' <;> simp [ends, Matches, hd]
  | start =>
      intro b x p
      rw [reaches_empty_iff fun _ _ h => h.1]
      by_cases hb : b = [] <;> simp [ends, Matches, hb]
  | stop =>
      intro b x p
      rw [reaches_empty_iff fun _ _ h => h.1]
      by_cases hx : x = [] <;> simp [ends, Matches, hx]
  | cat r s ihr ihs =>
      intro b x p
      simp only [ends, List.mem_flatMap]
      refine ⟨?_, ?_⟩
      · rintro ⟨q, hq, hp⟩
        exact .trans (fun hu hv => ⟨_, _, rfl, hu, hv⟩) ((ihr b x q).mp hq)
          ((ihs q.1 q.2 p).mp hp)
      · rintro ⟨m, hb, hx, u, v, rfl, hu, hv⟩
        refine ⟨(b ++ u, v ++ p.2), (ihr b x _).mpr ⟨u, rfl, by rw [hx, List.append_assoc], hu⟩,
          (ihs _ _ p).mpr ⟨v, by rw [hb, List.append_assoc], rfl, hv⟩⟩
  | opt r ih =>
      intro b x p
      simp only [ends, List.mem_cons, ih b x p]
      refine ⟨?_, ?_⟩
      · rintro (rfl | ⟨m, hb, hx, hm⟩)
        · exact .refl (Or.inl rfl)
        · exact ⟨m, hb, hx, Or.inr hm⟩
      · rintro ⟨m, hb, hx, rfl | hm⟩
        · exact Or.inl (Prod.ext (by simpa using hb) hx.symm)
        · exact Or.inr ⟨m, hb, hx, hm⟩
  | star r ih =>
      intro b x p
      simp only [ends]
      refine ⟨?_, ?_⟩
      · exact fun h => iterEnds_sound ih _ b x p h
      · rintro ⟨m, hb, rfl, hm⟩
        have h := iterEnds_complete ih hm (m ++ p.2).length (by simp)
        rwa [← hb] at h

theorem Re.searchFrom_iff (r : Re) : ∀ (x b : Text), r.searchFrom b x = true ↔
    ∃ p m a, x = p ++ (m ++ a) ∧ r.Matches (b ++ p) m a := by
  have here : ∀ b x, (!(r.ends b x).isEmpty) = true ↔ ∃ m a, x = m ++ a ∧ r.Matches b m a := by
    intro b x
    rw [Bool.not_eq_true', List.isEmpty_eq_false_iff_exists_mem]
    refine ⟨?_, ?_⟩
    · rintro ⟨q, hq⟩
      obtain ⟨m, -, hx, hm⟩ := (r.mem_ends b x q).mp hq
      exact ⟨m, q.2, hx, hm⟩
    · rintro ⟨m, a, hx, hm⟩
      exact ⟨(b ++ m, a), (r.mem_ends b x _).mpr ⟨m, rfl, hx, hm⟩⟩
  intro x
  induction x with
  | nil =>
      intro b
      rw [searchFrom, here]
      refine ⟨?_, ?_⟩
      · rintro ⟨m, a, hx, hm⟩; exact ⟨[], m, a, hx, by simpa using hm⟩
      · rintro ⟨p, m, a, hx, hm⟩
        obtain ⟨rfl, hma⟩ := List.append_eq_nil_iff.mp hx.symm
        exact ⟨m, a, hma.symm, by simpa using hm⟩
  | cons c x ih =>
      intro b
      rw [searchFrom, Bool.or_eq_true, here, ih]
      refine ⟨?_, ?_⟩
      · rintro (⟨m, a, hx, hm⟩ | ⟨p, m, a, hx, hm⟩)
        · exact ⟨[], m, a, hx, by simpa using hm⟩
        · exact ⟨c :: p, m, a, by rw [hx]; rfl, by simpa using hm⟩
      · rintro ⟨p, m, a, hx, hm⟩
        cases p with
        | nil => exact Or.inl ⟨m, a, hx, by simpa using hm⟩
        | cons d p =>
            obtain ⟨rfl, rfl⟩ := List.cons.inj hx
            exact Or.inr ⟨p, m, a, rfl, by simpa using hm⟩

theorem reference_documented : reference.Documented where
  escape_eq _ := rfl
  isMatch_iff := by
    intro pat re r hp hr x
    obtain rfl : re = r := by
      simp only [reference, hp] at hr
      exact Except.ok.inj hr
    show re.searchFrom [] x = true ↔ _
    rw [Re.searchFrom_iff, Search]
    simp

end MiniGateway.Regex
