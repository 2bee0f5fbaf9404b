import MiniGateway.Support.Text

/-!
# Support — Base64

Standard Base64 with padding: three bytes are four digits of six bits, and a last group of one or
two bytes is filled up with `=`.  The decoder takes what the encoder makes, the unused bits of a
last group zero.
-/

namespace MiniGateway.Base64

/-- The digit of a value below 64. -/
def digit (n : Nat) : Char :=
  if n < 26 then Char.ofNat (n + 65)
  else if n < 52 then Char.ofNat (n + 71)
  else if n < 62 then Char.ofNat (n - 4)
  else if n = 62 then '+'
  else '/'

/-- The value of a digit. -/
def value (c : Char) : Option Nat :=
  if 65 ≤ c.toNat ∧ c.toNat ≤ 90 then some (c.toNat - 65)
  else if 97 ≤ c.toNat ∧ c.toNat ≤ 122 then some (c.toNat - 71)
  else if 48 ≤ c.toNat ∧ c.toNat ≤ 57 then some (c.toNat + 4)
  else if c = '+' then some 62
  else if c = '/' then some 63
  else none

def encode : List UInt8 → Text
  | [] => []
  | [a] => [digit (a.toNat / 4), digit (a.toNat % 4 * 16), '=', '=']
  | [a, b] =>
      [digit (a.toNat / 4), digit (a.toNat % 4 * 16 + b.toNat / 16), digit (b.toNat % 16 * 4), '=']
  | a :: b :: c :: rest =>
      digit (a.toNat / 4) :: digit (a.toNat % 4 * 16 + b.toNat / 16) ::
        digit (b.toNat % 16 * 4 + c.toNat / 64) :: digit (c.toNat % 64) :: encode rest

/-- The bytes of four digits. -/
def group (x y z w : Nat) : List UInt8 :=
  [UInt8.ofNat (x * 4 + y / 16), UInt8.ofNat (y % 16 * 16 + z / 4), UInt8.ofNat (z % 4 * 64 + w)]

def decode : Text → Option (List UInt8)
  | [] => some []
  | a :: b :: c :: d :: rest =>
      match value a, value b, value c, value d with
      | some x, some y, some z, some w => (decode rest).map (group x y z w ++ ·)
      | some x, some y, some z, none =>
          if d = '=' ∧ rest = [] ∧ z % 4 = 0 then some ((group x y z 0).take 2) else none
      | some x, some y, none, none =>
          if c = '=' ∧ d = '=' ∧ rest = [] ∧ y % 16 = 0 then some ((group x y 0 0).take 1)
          else none
      | _, _, _, _ => none
  | _ => none

theorem value_digit {n : Nat} (h : n < 64) : value (digit n) = some n := by
  revert n
  decide

theorem ofNat_eq {n : Nat} {a : UInt8} (h : n = a.toNat) : UInt8.ofNat n = a := by
  rw [h, UInt8.ofNat_toNat]

/-- **Bytes come back.** -/
theorem decode_encode (bytes : List UInt8) : decode (encode bytes) = some bytes := by
  have hpad : value '=' = none := by decide
  induction bytes using encode.induct with
  | case1 => rfl
  | case2 a =>
      have ha := a.toNat_lt
      rw [encode, decode, value_digit (by omega), value_digit (by omega), hpad]
      simp only [group, List.take_succ_cons, List.take_zero]
      rw [if_pos ⟨trivial, trivial, trivial, by omega⟩, ofNat_eq (a := a) (by omega)]
  | case3 a b =>
      have ha := a.toNat_lt
      have hb := b.toNat_lt
      rw [encode, decode, value_digit (by omega), value_digit (by omega), value_digit (by omega),
        hpad]
      simp only [group, List.take_succ_cons, List.take_zero]
      rw [if_pos ⟨trivial, trivial, by omega⟩, ofNat_eq (a := a) (by omega),
        ofNat_eq (a := b) (by omega)]
  | case4 a b c rest ih =>
      have ha := a.toNat_lt
      have hb := b.toNat_lt
      have hc := c.toNat_lt
      rw [encode, decode, value_digit (by omega), value_digit (by omega), value_digit (by omega),
        value_digit (by omega)]
      simp only [ih, group, Option.map_some]
      rw [ofNat_eq (a := a) (by omega), ofNat_eq (a := b) (by omega), ofNat_eq (a := c) (by omega)]
      rfl

example : encode (Text.utf8 "/services/api") = "L3NlcnZpY2VzL2FwaQ==".toList := by decide
example : decode "aHR0cDovL29sZA==" = some (Text.utf8 "http://old") := by decide

end MiniGateway.Base64
