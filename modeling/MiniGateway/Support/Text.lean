import Mathlib.Data.List.Basic
import Mathlib.Tactic.Common

/-!
# Support — Text

Rust's `str` read as the list of its characters.  The operations are those of the standard
library the gateway calls: prefix and suffix tests, `strip_prefix`, `split`, `trim`, `join`,
ASCII case folding, decimal formatting and the UTF-8 encoding.

Every slice the gateway takes is cut at an ASCII boundary it has just tested for, so counting
characters and counting bytes name the same cut.
-/

namespace MiniGateway

/-- A `str`, as the list of its characters. -/
abbrev Text := List Char

instance : Coe String Text := ⟨String.toList⟩

namespace Text

/-- `s.starts_with(p)`. -/
def startsWith (s p : Text) : Bool := p.isPrefixOf s

/-- `s.ends_with(p)`. -/
def endsWith (s p : Text) : Bool := p.isSuffixOf s

/-- `s.strip_prefix(p)`. -/
def stripPrefix (s p : Text) : Option Text :=
  if s.startsWith p then some (s.drop p.length) else none

/-- `a.eq_ignore_ascii_case(b)`; `Char.toLower` folds `A`–`Z` only. -/
def eqIgnoreAsciiCase (a b : Text) : Bool := a.map Char.toLower == b.map Char.toLower

/-- `s.split(c).next()`: `split` always yields a first piece. -/
def firstPiece (s : Text) (c : Char) : Text := s.takeWhile (· ≠ c)

/-- `s.split(c)`. -/
def pieces (s : Text) (c : Char) : List Text := s.splitOn c

/-- `s.trim()`, on texts whose blanks are ASCII. -/
def trim (s : Text) : Text :=
  ((s.dropWhile Char.isWhitespace).reverse.dropWhile Char.isWhitespace).reverse

/-- `char::is_whitespace`: the property `White_Space` of Unicode. -/
def isWhitespace (c : Char) : Bool :=
  (9 ≤ c.toNat && c.toNat ≤ 13) || (0x2000 ≤ c.toNat && c.toNat ≤ 0x200A) ||
    [0x20, 0x85, 0xA0, 0x1680, 0x2028, 0x2029, 0x202F, 0x205F, 0x3000].contains c.toNat

/-- `s.trim()`, on any text. -/
def trimUnicode (s : Text) : Text :=
  ((s.dropWhile isWhitespace).reverse.dropWhile isWhitespace).reverse

/-- `parts.join(sep)`. -/
def join (parts : List Text) (sep : Text) : Text := sep.intercalate parts

/-- The decimal numeral of `n`. -/
def ofNat (n : Nat) : Text := Nat.toDigits 10 n

/-- `s.as_bytes()`. -/
def utf8 (s : Text) : List UInt8 := s.flatMap String.utf8EncodeChar

theorem utf8_append (s t : Text) : utf8 (s ++ t) = s.utf8 ++ t.utf8 := List.flatMap_append

theorem startsWith_iff {s p : Text} : s.startsWith p = true ↔ ∃ r, s = p ++ r := by
  rw [startsWith, List.isPrefixOf_iff_prefix]
  exact ⟨fun ⟨r, h⟩ => ⟨r, h.symm⟩, fun ⟨r, h⟩ => ⟨r, h.symm⟩⟩

theorem endsWith_iff {s p : Text} : s.endsWith p = true ↔ ∃ b, s = b ++ p := by
  rw [endsWith, List.isSuffixOf_iff_suffix]
  exact ⟨fun ⟨b, h⟩ => ⟨b, h.symm⟩, fun ⟨b, h⟩ => ⟨b, h.symm⟩⟩

@[simp] theorem endsWith_append (b p : Text) : endsWith (b ++ p) p = true :=
  endsWith_iff.mpr ⟨b, rfl⟩

@[simp] theorem stripPrefix_append (p r : Text) : stripPrefix (p ++ r) p = some r := by
  rw [stripPrefix, if_pos (startsWith_iff.mpr ⟨r, rfl⟩), List.drop_left]

theorem stripPrefix_eq_none {s p : Text} (h : ¬ ∃ r, s = p ++ r) : stripPrefix s p = none := by
  rw [stripPrefix, if_neg fun h' => h (startsWith_iff.mp h')]

/-- A text is cut at a character it does not hold before the cut in one way only. -/
theorem cut_unique {c : Char} : ∀ {a a' b b' : Text}, c ∉ a → c ∉ a' →
    a ++ c :: b = a' ++ c :: b' → a = a' ∧ b = b'
  | [], [], _, _, _, _, h => ⟨rfl, (List.cons.inj h).2⟩
  | [], _ :: _, _, _, _, h', h => absurd (List.cons.inj h).1 fun e => h' (by simp [e])
  | _ :: _, [], _, _, h', _, h => absurd (List.cons.inj h).1 fun e => h' (by simp [e])
  | x :: a, y :: a', _, _, h₁, h₂, h => by
      obtain ⟨rfl, ht⟩ := List.cons.inj h
      obtain ⟨rfl, hb⟩ := cut_unique (fun m => h₁ (by simp [m])) (fun m => h₂ (by simp [m])) ht
      exact ⟨rfl, hb⟩

end Text

end MiniGateway
