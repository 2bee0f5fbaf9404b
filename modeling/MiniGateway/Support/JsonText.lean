import Mathlib.Data.List.Permutation
import MiniGateway.Support.Json

/-!
# Support — JSON text

The grammar of JSON: what value a text is read as, and what is left of the text behind it.

A string is read character by character, and every character of it takes at least one of the
text.  So a text that is no longer than its string holds no escape (`ReadsChars.plain_of_length`);
and of a text without quotes and backslashes there is one reading (`ReadsChars.of_plain`).  An
object that is put together from texts as they are, instead of being written by the grammar, is
the one that was meant exactly if nothing in them had to be escaped (`twoMembers_iff`).
-/

namespace MiniGateway.Json

/-! ### Strings -/

/-- The characters that stand for themselves in a string. -/
def isPlain (c : Char) : Bool := c != '"' && c != '\\' && 0x20 ≤ c.toNat

/-- Digits stand for themselves. -/
theorem isPlain_of_isDigit {c : Char} (h : c.isDigit = true) : isPlain c = true := by
  have hle : 48 ≤ c.toNat := (Char.isDigit_iff_toNat.mp h).1
  have hquote : c ≠ '"' := by
    rintro rfl
    exact absurd h (by decide)
  have hslash : c ≠ '\\' := by
    rintro rfl
    exact absurd h (by decide)
  rw [isPlain, bne_iff_ne.mpr hquote, bne_iff_ne.mpr hslash, Bool.true_and, Bool.true_and,
    decide_eq_true_eq]
  omega

/-- So do numerals. -/
theorem isPlain_ofNat (n : Nat) : (Text.ofNat n).all isPlain = true :=
  List.all_eq_true.mpr fun _ hc =>
    isPlain_of_isDigit (Nat.isDigit_of_mem_toDigits (by decide) (by decide) hc)

/-- The escapes of one letter. -/
def escapeOf (c : Char) : Option Char :=
  [('"', '"'), ('\\', '\\'), ('/', '/'), ('b', Char.ofNat 8), ('f', Char.ofNat 12), ('n', '\n'),
    ('r', '\r'), ('t', '\t')].lookup c

/-- The value of a hexadecimal digit. -/
def hexDigit (c : Char) : Option Nat :=
  if c.isDigit then some (c.toNat - 48)
  else if 'a' ≤ c ∧ c ≤ 'f' then some (c.toNat - 87)
  else if 'A' ≤ c ∧ c ≤ 'F' then some (c.toNat - 55)
  else none

/-- Four hexadecimal digits. -/
def hex4 (a b c d : Char) : Option Nat := do
  let a ← hexDigit a
  let b ← hexDigit b
  let c ← hexDigit c
  let d ← hexDigit d
  some (((a * 16 + b) * 16 + c) * 16 + d)

/-- Behind the opening quote, `text` is read as `s`; `rest` is what follows the closing one. -/
inductive ReadsChars : Text → Text → Text → Prop where
  | close {rest : Text} : ReadsChars ('"' :: rest) [] rest
  | plain {c : Char} {text s rest : Text} (hc : isPlain c = true) (h : ReadsChars text s rest) :
      ReadsChars (c :: text) (c :: s) rest
  | escape {c d : Char} {text s rest : Text} (hc : escapeOf c = some d)
      (h : ReadsChars text s rest) : ReadsChars ('\\' :: c :: text) (d :: s) rest
  | unicode {x₁ x₂ x₃ x₄ : Char} {n : Nat} {text s rest : Text} (hn : hex4 x₁ x₂ x₃ x₄ = some n)
      (hscalar : n < 0xD800 ∨ 0xE000 ≤ n) (h : ReadsChars text s rest) :
      ReadsChars ('\\' :: 'u' :: x₁ :: x₂ :: x₃ :: x₄ :: text) (Char.ofNat n :: s) rest
  | pair {x₁ x₂ x₃ x₄ y₁ y₂ y₃ y₄ : Char} {n m : Nat} {text s rest : Text}
      (hn : hex4 x₁ x₂ x₃ x₄ = some n) (hm : hex4 y₁ y₂ y₃ y₄ = some m)
      (hhigh : 0xD800 ≤ n ∧ n < 0xDC00) (hlow : 0xDC00 ≤ m ∧ m < 0xE000)
      (h : ReadsChars text s rest) :
      ReadsChars
        ('\\' :: 'u' :: x₁ :: x₂ :: x₃ :: x₄ :: '\\' :: 'u' :: y₁ :: y₂ :: y₃ :: y₄ :: text)
        (Char.ofNat (0x10000 + (n - 0xD800) * 0x400 + (m - 0xDC00)) :: s) rest

namespace ReadsChars

/-- Every character that is read takes one of the text, and the closing quote another. -/
theorem length_le {text s rest : Text} (h : ReadsChars text s rest) :
    s.length + rest.length + 1 ≤ text.length := by
  induction h with
  | close => simp
  | plain hc h ih => simp only [List.length_cons]; omega
  | escape hc h ih => simp only [List.length_cons]; omega
  | unicode hn hscalar h ih => simp only [List.length_cons]; omega
  | pair hn hm hhigh hlow h ih => simp only [List.length_cons]; omega

/-- **A text no longer than what it is read as holds no escape.** -/
theorem plain_of_length {text s rest : Text} (h : ReadsChars text s rest)
    (hlength : text.length ≤ s.length + rest.length + 1) : s.all isPlain = true := by
  induction h with
  | close => rfl
  | plain hc h ih =>
      simp only [List.length_cons] at hlength
      rw [List.all_cons, hc, Bool.true_and]
      exact ih (by omega)
  | escape hc h ih =>
      have hle := h.length_le
      simp only [List.length_cons] at hlength
      omega
  | unicode hn hscalar h ih =>
      have hle := h.length_le
      simp only [List.length_cons] at hlength
      omega
  | pair hn hm hhigh hlow h ih =>
      have hle := h.length_le
      simp only [List.length_cons] at hlength
      omega

/-- A text of plain characters is read as itself. -/
theorem self {s : Text} (hs : s.all isPlain = true) (rest : Text) :
    ReadsChars (s ++ '"' :: rest) s rest := by
  induction s with
  | nil => exact .close
  | cons c s ih =>
      rw [List.all_cons, Bool.and_eq_true] at hs
      exact .plain hs.1 (ih hs.2)

/-- **And only as itself.** -/
theorem of_plain {s : Text} (hs : s.all isPlain = true) {t rest rest' : Text}
    (h : ReadsChars (s ++ '"' :: rest) t rest') : t = s ∧ rest' = rest := by
  induction s generalizing t with
  | nil =>
      cases h with
      | close => exact ⟨rfl, rfl⟩
      | plain hc h => exact absurd hc (by decide)
  | cons c s ih =>
      rw [List.all_cons, Bool.and_eq_true] at hs
      rw [List.cons_append] at h
      generalize htail : s ++ '"' :: rest = tail at h
      cases h with
      | close => exact absurd hs.1 (by decide)
      | plain hc h =>
          subst htail
          obtain ⟨rfl, rfl⟩ := ih hs.2 h
          exact ⟨rfl, rfl⟩
      | escape hc h => exact absurd hs.1 (by decide)
      | unicode hn hscalar h => exact absurd hs.1 (by decide)
      | pair hn hm hhigh hlow h => exact absurd hs.1 (by decide)

end ReadsChars

/-! ### Values -/

/-- The characters that are skipped. -/
def isBlank (c : Char) : Bool := c ∈ [' ', '\t', '\n', '\r']

/-- The text behind the blanks it starts with. -/
def skip (text : Text) : Text := text.dropWhile isBlank

theorem skip_cons {c : Char} (hc : isBlank c = false) (text : Text) :
    skip (c :: text) = c :: text :=
  List.dropWhile_cons_of_neg (by rw [hc]; decide)

/-- What is found behind the blanks takes its place in the text. -/
theorem length_of_skip {text : Text} {c : Char} {rest : Text} (h : skip text = c :: rest) :
    1 + rest.length ≤ text.length := by
  have hle := (List.dropWhile_sublist (l := text) isBlank).length_le
  rw [show text.dropWhile isBlank = c :: rest from h, List.length_cons] at hle
  omega

/-- One digit or more. -/
def isDigits (text : Text) : Bool := text ≠ [] && text.all Char.isDigit

/-- A numeral with a fraction, an exponent, or both. -/
def IsFloat (numeral : Text) : Prop :=
  ∃ (sign : Text) (n : Nat) (fraction exponent : Text),
    numeral = sign ++ Text.ofNat n ++ fraction ++ exponent ∧ (sign = [] ∨ sign = ['-']) ∧
    (fraction = [] ∨ ∃ ds, isDigits ds = true ∧ fraction = '.' :: ds) ∧
    (exponent = [] ∨ ∃ e plus ds, e ∈ ['e', 'E'] ∧ plus ∈ [[], ['+'], ['-']] ∧
      isDigits ds = true ∧ exponent = e :: plus ++ ds) ∧
    ¬ (fraction = [] ∧ exponent = [])

mutual

/-- `text` starts with the value, and `rest` is what follows it. -/
inductive Reads : Text → Json → Text → Prop where
  | null {text rest : Text} (h : skip text = "null".toList ++ rest) : Reads text .null rest
  | true {text rest : Text} (h : skip text = "true".toList ++ rest) :
      Reads text (.bool Bool.true) rest
  | false {text rest : Text} (h : skip text = "false".toList ++ rest) :
      Reads text (.bool Bool.false) rest
  | nat {n : Nat} {text rest : Text} (h : skip text = Text.ofNat n ++ rest) :
      Reads text (.int n) rest
  | neg {n : Nat} {text rest : Text} (h : skip text = '-' :: Text.ofNat n ++ rest) :
      Reads text (.int (-n)) rest
  | float {numeral text rest : Text} (hfloat : IsFloat numeral) (h : skip text = numeral ++ rest) :
      Reads text (.float numeral) rest
  | str {text chars s rest : Text} (h : skip text = '"' :: chars) (hs : ReadsChars chars s rest) :
      Reads text (.str s) rest
  | emptyArr {text inner rest : Text} (h : skip text = '[' :: inner)
      (hend : skip inner = ']' :: rest) : Reads text (.arr []) rest
  | arr {text inner rest : Text} {items : List Json} (h : skip text = '[' :: inner)
      (hitems : ReadsItems inner items rest) : Reads text (.arr items) rest
  | emptyObj {text inner rest : Text} (h : skip text = '{' :: inner)
      (hend : skip inner = '}' :: rest) : Reads text (.obj []) rest
  | obj {text inner rest : Text} {members : List (Text × Json)} (h : skip text = '{' :: inner)
      (hmembers : ReadsMembers inner members rest) : Reads text (.obj members) rest

/-- The items of an array, up to the closing bracket. -/
inductive ReadsItems : Text → List Json → Text → Prop where
  | last {text after rest : Text} {item : Json} (hitem : Reads text item after)
      (hend : skip after = ']' :: rest) : ReadsItems text [item] rest
  | cons {text after next rest : Text} {item : Json} {items : List Json}
      (hitem : Reads text item after) (hcomma : skip after = ',' :: next)
      (hitems : ReadsItems next items rest) : ReadsItems text (item :: items) rest

/-- The members of an object, up to the closing brace. -/
inductive ReadsMembers : Text → List (Text × Json) → Text → Prop where
  | last {text chars key colon inner after rest : Text} {value : Json}
      (hquote : skip text = '"' :: chars) (hkey : ReadsChars chars key colon)
      (hcolon : skip colon = ':' :: inner) (hvalue : Reads inner value after)
      (hend : skip after = '}' :: rest) : ReadsMembers text [(key, value)] rest
  | cons {text chars key colon inner after next rest : Text} {value : Json}
      {members : List (Text × Json)}
      (hquote : skip text = '"' :: chars) (hkey : ReadsChars chars key colon)
      (hcolon : skip colon = ':' :: inner) (hvalue : Reads inner value after)
      (hcomma : skip after = ',' :: next) (hmembers : ReadsMembers next members rest) :
      ReadsMembers text ((key, value) :: members) rest

end

/-- The whole text is the value, but for blanks. -/
def IsDocument (text : Text) (value : Json) : Prop :=
  ∃ rest, Reads text value rest ∧ skip rest = []

/-! ### Two members, put together from texts -/

/-- An object with two members, from texts as they are. -/
def twoMembers (k₁ v₁ k₂ v₂ : Text) : Text :=
  '{' :: '"' :: (k₁ ++ '"' :: ':' :: '"' :: (v₁ ++ '"' :: ',' :: '"' ::
    (k₂ ++ '"' :: ':' :: '"' :: (v₂ ++ '"' :: ['}']))))

section TwoMembers

variable {k₁ v₁ k₂ v₂ : Text}

/-- Plain texts are read as they are. -/
theorem twoMembers_isDocument (hk₁ : k₁.all isPlain = true) (hv₁ : v₁.all isPlain = true)
    (hk₂ : k₂.all isPlain = true) (hv₂ : v₂.all isPlain = true) :
    IsDocument (twoMembers k₁ v₁ k₂ v₂) (.obj [(k₁, .str v₁), (k₂, .str v₂)]) := by
  refine ⟨[], .obj (skip_cons (by decide) _) ?_, rfl⟩
  refine .cons (skip_cons (by decide) _) (.self hk₁ _) (skip_cons (by decide) _)
    (.str (skip_cons (by decide) _) (.self hv₁ _)) (skip_cons (by decide) _) ?_
  exact .last (skip_cons (by decide) _) (.self hk₂ _) (skip_cons (by decide) _)
    (.str (skip_cons (by decide) _) (.self hv₂ _)) (skip_cons (by decide) _)

/-- The next token of the text is the one that is read. -/
theorem token_eq {c d : Char} {text rest : Text} (hc : isBlank c = false)
    (h : skip (c :: text) = d :: rest) : rest = text := by
  rw [skip_cons hc] at h
  exact (List.cons.inj h).2.symm

/-- A plain key is read as such, and its value from what follows it. -/
theorem key_eq {key text chars colon inner k : Text} (hkey : key.all isPlain = true)
    (hquote : skip ('"' :: (key ++ '"' :: ':' :: text)) = '"' :: chars)
    (hchars : ReadsChars chars k colon) (hcolon : skip colon = ':' :: inner) :
    k = key ∧ inner = text := by
  obtain rfl := token_eq (by decide) hquote
  obtain ⟨rfl, rfl⟩ := hchars.of_plain hkey
  exact ⟨rfl, token_eq (by decide) hcolon⟩

/-- A string is read from what follows the quote. -/
theorem chars_of_str {text s rest : Text} (h : Reads ('"' :: text) (.str s) rest) :
    ReadsChars text s rest := by
  cases h with
  | str hopen hs =>
      obtain rfl := token_eq (by decide) hopen
      exact hs

/-- What two members are read as: the first three texts as themselves. -/
theorem twoMembers_reads (hk₁ : k₁.all isPlain = true) (hv₁ : v₁.all isPlain = true)
    (hk₂ : k₂.all isPlain = true) {a x b y : Text}
    (h : IsDocument (twoMembers k₁ v₁ k₂ v₂) (.obj [(a, .str x), (b, .str y)])) :
    a = k₁ ∧ x = v₁ ∧ b = k₂ ∧
      ∃ after rest, ReadsChars (v₂ ++ '"' :: ['}']) y after ∧ skip after = '}' :: rest := by
  obtain ⟨_, hobj, -⟩ := h
  cases hobj with
  | obj hbrace hmembers =>
      obtain rfl := token_eq (by decide) hbrace
      cases hmembers with
      | cons hquote hchars hcolon hvalue hcomma hmembers =>
          obtain ⟨rfl, rfl⟩ := key_eq hk₁ hquote hchars hcolon
          obtain ⟨rfl, rfl⟩ := (chars_of_str hvalue).of_plain hv₁
          obtain rfl := token_eq (by decide) hcomma
          cases hmembers with
          | last hquote hchars hcolon hvalue hend =>
              obtain ⟨rfl, rfl⟩ := key_eq hk₂ hquote hchars hcolon
              exact ⟨rfl, rfl, rfl, _, _, chars_of_str hvalue, hend⟩
          | cons _ _ _ _ _ hmembers => cases hmembers

/-- **Two members are what they are meant to be exactly if the last text is plain**, whatever the
first one is read as. -/
theorem twoMembers_iff (hk₁ : k₁.all isPlain = true) (hv₁ : v₁.all isPlain = true)
    (hk₂ : k₂.all isPlain = true) (hne : k₁ ≠ k₂) :
    (∃ x members, members.Perm [(k₁, Json.str x), (k₂, .str v₂)] ∧
      IsDocument (twoMembers k₁ v₁ k₂ v₂) (.obj members)) ↔ v₂.all isPlain = true := by
  refine ⟨?_, fun hv₂ => ⟨v₁, _, .refl _, twoMembers_isDocument hk₁ hv₁ hk₂ hv₂⟩⟩
  rintro ⟨x, members, hperm, h⟩
  rcases List.perm_pair.mp hperm with rfl | rfl
  · obtain ⟨-, -, -, after, rest, hchars, hend⟩ := twoMembers_reads hk₁ hv₁ hk₂ h
    have hle := hchars.length_le
    have hlast := length_of_skip hend
    refine hchars.plain_of_length ?_
    simp only [List.length_append, List.length_cons, List.length_nil] at hle ⊢
    omega
  · exact absurd (twoMembers_reads hk₁ hv₁ hk₂ h).1.symm hne

end TwoMembers

end MiniGateway.Json
