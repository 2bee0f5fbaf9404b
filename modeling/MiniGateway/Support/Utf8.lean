import MiniGateway.Support.Text

/-!
# Support — Utf8

`String::from_utf8_lossy`: bytes read as UTF-8, each maximal invalid sequence becoming one
U+FFFD.  The decoder takes one byte at a time.  Between two bytes it either stands at a
character boundary or owes continuation bytes, the next of them in a known range.  A byte out of
that range ends the sequence with U+FFFD and is read again as a first byte.

Text comes back from its bytes (`fromUtf8Lossy_utf8_append`), and compares as they do
(`utf8_lt_iff`).  Incrementing the last byte changes the last character, to the next one unless
that takes a carry (`fromUtf8Lossy_increment`).
-/

namespace MiniGateway.Utf8

/-- A started character: the bits read, the continuation bytes owed, and the range of the next. -/
structure Pending where
  bits : Nat
  owed : Nat
  low : Nat
  high : Nat

/-- U+FFFD. -/
def replacement : Char := Char.ofNat 0xFFFD

/-- A byte read at a character boundary: the text it yields, and what it leaves owed. -/
def first (b : Nat) : Text × Option Pending :=
  if b < 0x80 then ([Char.ofNat b], none)
  else if 0xC2 ≤ b ∧ b ≤ 0xDF then ([], some ⟨b - 0xC0, 1, 0x80, 0xBF⟩)
  else if b = 0xE0 then ([], some ⟨0, 2, 0xA0, 0xBF⟩)
  else if b = 0xED then ([], some ⟨0xD, 2, 0x80, 0x9F⟩)
  else if 0xE1 ≤ b ∧ b ≤ 0xEF then ([], some ⟨b - 0xE0, 2, 0x80, 0xBF⟩)
  else if b = 0xF0 then ([], some ⟨0, 3, 0x90, 0xBF⟩)
  else if 0xF1 ≤ b ∧ b ≤ 0xF3 then ([], some ⟨b - 0xF0, 3, 0x80, 0xBF⟩)
  else if b = 0xF4 then ([], some ⟨4, 3, 0x80, 0x8F⟩)
  else ([replacement], none)

/-- One byte. -/
def step : Option Pending → Nat → Text × Option Pending
  | none, b => first b
  | some p, b =>
      if p.low ≤ b ∧ b ≤ p.high then
        let bits := p.bits * 64 + (b - 0x80)
        if p.owed ≤ 1 then ([Char.ofNat bits], none)
        else ([], some ⟨bits, p.owed - 1, 0x80, 0xBF⟩)
      else
        (replacement :: (first b).1, (first b).2)

/-- The text of the remaining bytes. -/
def decodeFrom : Option Pending → List UInt8 → Text
  | none, [] => []
  | some _, [] => [replacement]
  | q, b :: bs => (step q b.toNat).1 ++ decodeFrom (step q b.toNat).2 bs

/-- `String::from_utf8_lossy(bytes)`. -/
def fromUtf8Lossy (bytes : List UInt8) : Text := decodeFrom none bytes

example : fromUtf8Lossy (Text.utf8 "é€😀") = "é€😀".toList := by decide
example : fromUtf8Lossy [0x61, 0xE2, 0x82, 0x62] = ['a', replacement, 'b'] := by decide

/-! ### Text comes back from its bytes -/

theorem encode_one {c : Char} (h : c.toNat < 0x80) :
    String.utf8EncodeChar c = [UInt8.ofNat c.toNat] :=
  if_pos (Nat.le_of_lt_succ h)

theorem encode_two {c : Char} (h : 0x80 ≤ c.toNat) (h' : c.toNat < 0x800) :
    String.utf8EncodeChar c =
      [UInt8.ofNat (c.toNat / 64 + 0xC0), UInt8.ofNat (c.toNat % 64 + 0x80)] := by
  have hval : c.val.toNat = c.toNat := rfl
  rw [String.utf8EncodeChar, hval, if_neg (by omega), if_pos (by omega),
    Nat.mod_eq_of_lt (by omega : c.toNat / 64 < 0x20)]

theorem encode_three {c : Char} (h : 0x800 ≤ c.toNat) (h' : c.toNat < 0x10000) :
    String.utf8EncodeChar c =
      [UInt8.ofNat (c.toNat / 4096 + 0xE0), UInt8.ofNat (c.toNat / 64 % 64 + 0x80),
        UInt8.ofNat (c.toNat % 64 + 0x80)] := by
  have hval : c.val.toNat = c.toNat := rfl
  rw [String.utf8EncodeChar, hval, if_neg (by omega), if_neg (by omega), if_pos (by omega),
    Nat.mod_eq_of_lt (by omega : c.toNat / 4096 < 0x10)]

theorem encode_four {c : Char} (h : 0x10000 ≤ c.toNat) (h' : c.toNat < 0x110000) :
    String.utf8EncodeChar c =
      [UInt8.ofNat (c.toNat / 262144 + 0xF0), UInt8.ofNat (c.toNat / 4096 % 64 + 0x80),
        UInt8.ofNat (c.toNat / 64 % 64 + 0x80), UInt8.ofNat (c.toNat % 64 + 0x80)] := by
  have hval : c.val.toNat = c.toNat := rfl
  rw [String.utf8EncodeChar, hval, if_neg (by omega), if_neg (by omega), if_neg (by omega),
    Nat.mod_eq_of_lt (by omega : c.toNat / 262144 < 0x08)]

/-- A character has one to four bytes. -/
theorem toNat_cases (c : Char) :
    c.toNat < 0x80 ∨ (0x80 ≤ c.toNat ∧ c.toNat < 0x800) ∨
      (0x800 ≤ c.toNat ∧ c.toNat < 0x10000) ∨ (0x10000 ≤ c.toNat ∧ c.toNat < 0x110000) := by
  have hlt : c.toNat < 0x110000 := by
    rcases c.valid with h | h
    · exact Nat.lt_trans h (by decide)
    · exact h.2
  omega

theorem toNat_surrogate (c : Char) : c.toNat < 0xD800 ∨ 0xDFFF < c.toNat := by
  rcases c.valid with h | h
  · exact .inl h
  · exact .inr h.1

theorem step_last {bits low high n : Nat} (hlow : low ≤ n + 0x80) (hhigh : n + 0x80 ≤ high) :
    step (some ⟨bits, 1, low, high⟩) (n + 0x80) = ([Char.ofNat (bits * 64 + n)], none) := by
  simp [step, hlow, hhigh]

theorem step_more {bits owed low high n : Nat} (hlow : low ≤ n + 0x80) (hhigh : n + 0x80 ≤ high)
    (howed : 1 < owed) :
    step (some ⟨bits, owed, low, high⟩) (n + 0x80) =
      ([], some ⟨bits * 64 + n, owed - 1, 0x80, 0xBF⟩) := by
  simp [step, hlow, hhigh, Nat.not_le.mpr howed]

theorem step_ascii {b : Nat} (h : b < 0x80) : step none b = ([Char.ofNat b], none) := by
  rw [step, first, if_pos h]

theorem step_two {n : Nat} (hlow : 2 ≤ n) (hhigh : n < 32) :
    step none (n + 0xC0) = ([], some ⟨n, 1, 0x80, 0xBF⟩) := by
  rw [step, first, if_neg (by omega), if_pos (by omega), Nat.add_sub_cancel]

theorem step_three {v : Nat} (hlow : 0x800 ≤ v) (hhigh : v < 0x10000)
    (hsur : v < 0xD800 ∨ 0xDFFF < v) :
    ∃ low high, step none (v / 4096 + 0xE0) = ([], some ⟨v / 4096, 2, low, high⟩) ∧
      low ≤ v / 64 % 64 + 0x80 ∧ v / 64 % 64 + 0x80 ≤ high := by
  rw [step, first, if_neg (by omega), if_neg (by omega)]
  split
  · exact ⟨0xA0, 0xBF, by rw [show v / 4096 = 0 by omega], by omega, by omega⟩
  split
  · exact ⟨0x80, 0x9F, by rw [show v / 4096 = 0xD by omega], by omega, by omega⟩
  · exact ⟨0x80, 0xBF, by rw [if_pos (by omega), Nat.add_sub_cancel], by omega, by omega⟩

theorem step_four {v : Nat} (hlow : 0x10000 ≤ v) (hhigh : v < 0x110000) :
    ∃ low high, step none (v / 262144 + 0xF0) = ([], some ⟨v / 262144, 3, low, high⟩) ∧
      low ≤ v / 4096 % 64 + 0x80 ∧ v / 4096 % 64 + 0x80 ≤ high := by
  rw [step, first, if_neg (by omega), if_neg (by omega), if_neg (by omega), if_neg (by omega),
    if_neg (by omega)]
  split
  · exact ⟨0x90, 0xBF, by rw [show v / 262144 = 0 by omega], by omega, by omega⟩
  split
  · exact ⟨0x80, 0xBF, by rw [Nat.add_sub_cancel], by omega, by omega⟩
  · exact ⟨0x80, 0x8F, by rw [if_pos (by omega), show v / 262144 = 4 by omega], by omega, by omega⟩

theorem decodeFrom_step {q q' : Option Pending} {b : Nat} {out : Text} (hb : b < 256)
    (h : step q b = (out, q')) (rest : List UInt8) :
    decodeFrom q (UInt8.ofNat b :: rest) = out ++ decodeFrom q' rest := by
  rw [decodeFrom, UInt8.toNat_ofNat_of_lt' hb, h]

/-- Before the last byte of a character that has more than one, only that byte is owed. -/
theorem decodeFrom_init {c : Char} (hc : 0x80 ≤ c.toNat) : ∃ i,
    String.utf8EncodeChar c = i ++ [UInt8.ofNat (c.toNat % 64 + 0x80)] ∧
      ∀ rest, decodeFrom none (i ++ rest) =
        decodeFrom (some ⟨c.toNat / 64, 1, 0x80, 0xBF⟩) rest := by
  rcases toNat_cases c with h | ⟨h, h'⟩ | ⟨h, h'⟩ | ⟨h, h'⟩
  · omega
  · refine ⟨[_], encode_two h h', fun rest => ?_⟩
    rw [List.cons_append, decodeFrom_step (by omega) (step_two (by omega) (by omega))]
    rfl
  · refine ⟨[_, _], encode_three h h', fun rest => ?_⟩
    obtain ⟨low, high, hfirst, hlow, hhigh⟩ := step_three h h' (toNat_surrogate c)
    rw [List.cons_append, decodeFrom_step (by omega) hfirst, List.nil_append,
      List.cons_append, decodeFrom_step (by omega) (step_more hlow hhigh (by omega)),
      show c.toNat / 4096 * 64 + c.toNat / 64 % 64 = c.toNat / 64 by omega]
    rfl
  · refine ⟨[_, _, _], encode_four h h', fun rest => ?_⟩
    obtain ⟨low, high, hfirst, hlow, hhigh⟩ := step_four h h'
    rw [List.cons_append, decodeFrom_step (by omega) hfirst, List.nil_append,
      List.cons_append, decodeFrom_step (by omega) (step_more hlow hhigh (by omega)),
      List.nil_append, List.cons_append,
      decodeFrom_step (by omega) (step_more (by omega) (by omega) (by omega)),
      show (c.toNat / 262144 * 64 + c.toNat / 4096 % 64) * 64 + c.toNat / 64 % 64 =
        c.toNat / 64 by omega]
    rfl

/-- A character is read back from its own bytes. -/
theorem decodeFrom_char (c : Char) (rest : List UInt8) :
    decodeFrom none (String.utf8EncodeChar c ++ rest) = c :: decodeFrom none rest := by
  rcases Nat.lt_or_ge c.toNat 0x80 with h | h
  · rw [encode_one h, List.cons_append, decodeFrom_step (by omega) (step_ascii h),
      Char.ofNat_toNat]
    rfl
  · obtain ⟨i, henc, hinit⟩ := decodeFrom_init h
    rw [henc, List.append_assoc, hinit, List.cons_append,
      decodeFrom_step (by omega) (step_last (by omega) (by omega)),
      Nat.div_add_mod' c.toNat 64, Char.ofNat_toNat]
    rfl

theorem fromUtf8Lossy_ascii_cons {b : UInt8} (h : b.toNat < 0x80) (rest : List UInt8) :
    fromUtf8Lossy (b :: rest) = Char.ofNat b.toNat :: fromUtf8Lossy rest := by
  rw [fromUtf8Lossy, decodeFrom, step_ascii h]
  rfl

/-- **Text comes back**, whatever follows its bytes. -/
theorem fromUtf8Lossy_utf8_append (u : Text) (rest : List UInt8) :
    fromUtf8Lossy (u.utf8 ++ rest) = u ++ fromUtf8Lossy rest := by
  induction u with
  | nil => rfl
  | cons c u ih =>
      rw [Text.utf8, List.flatMap_cons, List.append_assoc, fromUtf8Lossy, decodeFrom_char]
      exact congrArg (c :: ·) ih

/-- Two texts with the same bytes are the same. -/
theorem utf8_inj {u v : Text} (h : u.utf8 = v.utf8) : u = v := by
  have hread := congrArg (fun bytes => fromUtf8Lossy (bytes ++ [])) h
  simp only [fromUtf8Lossy_utf8_append] at hread
  exact List.append_cancel_right hread

/-- The bytes of a text start with those of another if the text starts with it. -/
theorem utf8_prefix_iff {u v : Text} : u.utf8 <+: v.utf8 ↔ u <+: v := by
  constructor
  · rintro ⟨z, hz⟩
    have hread := congrArg (fun bytes => fromUtf8Lossy (bytes ++ [])) hz
    simp only [List.append_assoc, fromUtf8Lossy_utf8_append] at hread
    exact ⟨_, hread.trans (List.append_nil v)⟩
  · rintro ⟨z, rfl⟩
    rw [Text.utf8_append]
    exact List.prefix_append _ _

/-! ### Order -/

section Lex

variable {α : Type} [LT α]

theorem append_lt_append_iff [Std.Irrefl (α := α) (· < ·)] {u x y : List α} :
    u ++ x < u ++ y ↔ x < y := by
  induction u with
  | nil => exact Iff.rfl
  | cons a u ih => rw [List.cons_append, List.cons_append, List.cons_lt_cons_self, ih]

/-- What lies between two lists that start alike starts like them. -/
theorem append_of_between [Std.Trichotomous (α := α) (· < ·)] : ∀ {u x y t : List α},
    ¬ t < u ++ x → ¬ u ++ y < t → ∃ z, t = u ++ z
  | [], _, _, t, _, _ => ⟨t, rfl⟩
  | a :: u, x, y, [], hlow, _ => absurd (List.nil_lt_cons a (u ++ x)) hlow
  | a :: u, x, y, b :: t, hlow, hhigh => by
      rw [List.cons_append, List.cons_lt_cons_iff] at hlow hhigh
      obtain rfl : b = a := Std.Trichotomous.trichotomous b a
        (fun h => hlow (.inl h)) fun h => hhigh (.inl h)
      obtain ⟨z, rfl⟩ := append_of_between (fun h => hlow (.inr ⟨rfl, h⟩))
        fun h => hhigh (.inr ⟨rfl, h⟩)
      exact ⟨z, rfl⟩

/-- Where `d` comes next after `c`, the lists from `u c` up to `u d` are those that start with
`u c`. -/
theorem between_iff_prefix [Std.Asymm (α := α) (· < ·)] [Std.Trichotomous (α := α) (· < ·)]
    {c d : α} (hnext : ∀ e, e < d ↔ ¬ c < e) {u t : List α} :
    ¬ t < u ++ [c] ∧ t < u ++ [d] ↔ u ++ [c] <+: t := by
  constructor
  · rintro ⟨hlow, hhigh⟩
    obtain ⟨z, rfl⟩ := append_of_between hlow (List.lt_asymm hhigh)
    rw [append_lt_append_iff] at hlow hhigh
    cases z with
    | nil => exact absurd (List.nil_lt_cons c []) hlow
    | cons e r =>
        rw [List.cons_lt_cons_iff] at hlow hhigh
        have hed : e < d := hhigh.elim id fun h => absurd h.2 (List.not_lt_nil r)
        obtain rfl : e = c := Std.Trichotomous.trichotomous e c
          (fun h => hlow (.inl h)) ((hnext e).mp hed)
        exact ⟨r, by rw [List.append_assoc]; rfl⟩
  · rintro ⟨r, rfl⟩
    rw [List.append_assoc, append_lt_append_iff, append_lt_append_iff]
    refine ⟨List.not_lt.mpr (List.le_append_left), ?_⟩
    exact List.cons_lt_cons_iff.mpr (.inl ((hnext c).mpr (Std.Irrefl.irrefl c)))

end Lex

theorem ofNat_cons_lt_iff {a b : Nat} (ha : a < 256) (hb : b < 256) {x y : List UInt8} :
    UInt8.ofNat a :: x < UInt8.ofNat b :: y ↔ a < b ∨ a = b ∧ x < y := by
  rw [List.cons_lt_cons_iff, UInt8.lt_iff_toNat_lt, ← UInt8.toNat_inj,
    UInt8.toNat_ofNat_of_lt' ha, UInt8.toNat_ofNat_of_lt' hb]

/-- Two characters are told apart, the same way, within their bytes. -/
theorem char_lt {c d : Char} (h : c < d) (x y : List UInt8) :
    String.utf8EncodeChar c ++ x < String.utf8EncodeChar d ++ y := by
  have hlt : c.toNat < d.toNat := h
  rcases toNat_cases c with hc | ⟨hc, hc'⟩ | ⟨hc, hc'⟩ | ⟨hc, hc'⟩ <;>
    rcases toNat_cases d with hd | ⟨hd, hd'⟩ | ⟨hd, hd'⟩ | ⟨hd, hd'⟩ <;>
    simp (disch := omega) only [encode_one, encode_two, encode_three, encode_four,
      List.cons_append, ofNat_cons_lt_iff] <;> omega

/-- **UTF-8 keeps the order**: texts compare as their bytes do. -/
theorem utf8_lt_iff {x y : Text} : x.utf8 < y.utf8 ↔ x < y := by
  induction x generalizing y with
  | nil =>
      cases y with
      | nil => exact iff_of_false (List.lt_irrefl _) (List.lt_irrefl _)
      | cons d y =>
          refine iff_of_true ?_ (List.nil_lt_cons d y)
          obtain ⟨b, bs, hd⟩ := List.exists_cons_of_ne_nil (String.utf8EncodeChar_ne_nil (c := d))
          rw [Text.utf8, Text.utf8, List.flatMap_cons, hd]
          exact List.nil_lt_cons b _
  | cons c x ih =>
      cases y with
      | nil => exact iff_of_false (List.not_lt_nil _) (List.not_lt_nil _)
      | cons d y =>
          rw [Text.utf8, Text.utf8, List.flatMap_cons, List.flatMap_cons, List.cons_lt_cons_iff]
          rcases Nat.lt_trichotomy c.toNat d.toNat with h | h | h
          · exact iff_of_true (char_lt h _ _) (.inl h)
          · obtain rfl := Char.toNat_inj.mp h
            rw [append_lt_append_iff]
            refine ih.trans ⟨fun h => .inr ⟨rfl, h⟩, fun h => ?_⟩
            exact h.elim (absurd · (Char.lt_irrefl c)) And.right
          · refine iff_of_false (List.lt_asymm (char_lt h _ _)) ?_
            rintro (h' | ⟨rfl, -⟩)
            · exact absurd h' (Char.lt_asymm h)
            · exact absurd h (Nat.lt_irrefl _)

/-! ### The last byte, incremented -/

/-- The last byte of the character is `0x7F` or `0xBF`: one more, and it is none of a character. -/
def Carries (c : Char) : Prop := c.toNat = 0x7F ∨ 0x80 ≤ c.toNat ∧ c.toNat % 64 = 63

instance (c : Char) : Decidable (Carries c) := inferInstanceAs (Decidable (_ ∨ _))

/-- What the bytes of a character read as when the last of them is incremented. -/
def nextOf (c : Char) : Text :=
  if Carries c then
    if c.toNat = 0x7F then [replacement] else [replacement, replacement]
  else [Char.ofNat (c.toNat + 1)]

theorem toNat_ofNat {n : Nat} (h : n.isValidChar) : (Char.ofNat n).toNat = n := by
  rw [Char.ofNat, dif_pos h]
  rfl

theorem toNat_next {c : Char} (h : ¬ Carries c) :
    (Char.ofNat (c.toNat + 1)).toNat = c.toNat + 1 := by
  refine toNat_ofNat ?_
  have hc : Nat.isValidChar c.toNat := c.valid
  rw [Carries] at h
  rw [Nat.isValidChar] at hc ⊢
  omega

/-- The next character has the same bytes, but for the last. -/
theorem encode_next {c : Char} (h : ¬ Carries c) : ∃ i b, String.utf8EncodeChar c = i ++ [b] ∧
    String.utf8EncodeChar (Char.ofNat (c.toNat + 1)) = i ++ [b + 1] := by
  have hnext := toNat_next h
  have hbyte : ∀ n : Nat, UInt8.ofNat (n + 1) = UInt8.ofNat n + 1 := fun n => UInt8.ofNat_add n 1
  rw [Carries] at h
  rcases toNat_cases c with hc | ⟨hc, hc'⟩ | ⟨hc, hc'⟩ | ⟨hc, hc'⟩
  · refine ⟨[], _, encode_one hc, ?_⟩
    rw [encode_one (by omega), hnext, hbyte]
    rfl
  · refine ⟨[_], _, encode_two hc hc', ?_⟩
    rw [encode_two (by omega) (by omega), hnext, ← hbyte]
    rw [show (c.toNat + 1) / 64 = c.toNat / 64 by omega,
      show (c.toNat + 1) % 64 + 0x80 = c.toNat % 64 + 0x80 + 1 by omega]
    rfl
  · refine ⟨[_, _], _, encode_three hc hc', ?_⟩
    rw [encode_three (by omega) (by omega), hnext, ← hbyte]
    rw [show (c.toNat + 1) / 64 = c.toNat / 64 by omega,
      show (c.toNat + 1) / 4096 = c.toNat / 4096 by omega,
      show (c.toNat + 1) % 64 + 0x80 = c.toNat % 64 + 0x80 + 1 by omega]
    rfl
  · refine ⟨[_, _, _], _, encode_four hc hc', ?_⟩
    rw [encode_four (by omega) (by omega), hnext, ← hbyte]
    rw [show (c.toNat + 1) / 64 = c.toNat / 64 by omega,
      show (c.toNat + 1) / 4096 = c.toNat / 4096 by omega,
      show (c.toNat + 1) / 262144 = c.toNat / 262144 by omega,
      show (c.toNat + 1) % 64 + 0x80 = c.toNat % 64 + 0x80 + 1 by omega]
    rfl

/-- **The next character ends the range of a prefix**: the bytes from those of a text up to those of
the text with the next last character are the ones that start with the text's. -/
theorem between_next_iff {c : Char} (h : ¬ Carries c) (u : Text) {k : List UInt8} :
    ¬ k < Text.utf8 (u ++ [c]) ∧ k < Text.utf8 (u ++ [Char.ofNat (c.toNat + 1)]) ↔
      Text.utf8 (u ++ [c]) <+: k := by
  obtain ⟨i, b, henc, henc'⟩ := encode_next h
  have hbytes : ∀ {d : Char} {e : UInt8}, String.utf8EncodeChar d = i ++ [e] →
      Text.utf8 (u ++ [d]) = (u.utf8 ++ i) ++ [e] := by
    intro d e hd
    rw [Text.utf8_append, Text.utf8, Text.utf8, List.flatMap_singleton, hd, List.append_assoc]
  -- the last byte does not wrap, or the next character would come first
  have hlt : b.toNat < (b + 1).toNat := by
    have hchar : c < Char.ofNat (c.toNat + 1) := by
      have hnext := toNat_next h
      exact Nat.lt_of_lt_of_eq (Nat.lt_succ_self c.toNat) hnext.symm
    have hless := char_lt hchar [] []
    rw [List.append_nil, List.append_nil, henc, henc', append_lt_append_iff,
      List.cons_lt_cons_iff] at hless
    exact hless.elim id fun h => absurd h.2 (List.lt_irrefl _)
  rw [hbytes henc, hbytes henc']
  refine between_iff_prefix fun e => ?_
  rw [UInt8.lt_iff_toNat_lt, UInt8.lt_iff_toNat_lt]
  rw [UInt8.toNat_add] at hlt ⊢
  have hone : (1 : UInt8).toNat = 1 := rfl
  omega

/-- A continuation byte that went past `0xBF` ends the character, and is none itself. -/
theorem encode_carry {c : Char} (hc : 0x80 ≤ c.toNat) (hlast : c.toNat % 64 = 63) :
    ∃ i, String.utf8EncodeChar c = i ++ [0xBF] ∧
      fromUtf8Lossy (i ++ [0xC0]) = [replacement, replacement] := by
  obtain ⟨i, henc, hinit⟩ := decodeFrom_init hc
  refine ⟨i, ?_, hinit [0xC0]⟩
  rw [henc, hlast]
  rfl

/-- The bytes of a character, the last of them incremented, read as `nextOf` says. -/
theorem encode_increment (c : Char) : ∃ i b, String.utf8EncodeChar c = i ++ [b] ∧
    fromUtf8Lossy (i ++ [b + 1]) = nextOf c := by
  by_cases hcar : Carries c
  · rw [nextOf, if_pos hcar]
    rcases hcar with h | ⟨h, h'⟩
    · refine ⟨[], 0x7F, ?_, ?_⟩
      · rw [encode_one (by omega), h]
        rfl
      · rw [if_pos h]
        rfl
    · obtain ⟨i, henc, hdec⟩ := encode_carry h h'
      refine ⟨i, 0xBF, henc, ?_⟩
      rw [if_neg (by omega)]
      exact hdec
  · obtain ⟨i, b, henc, hnext⟩ := encode_next hcar
    refine ⟨i, b, henc, ?_⟩
    rw [← hnext, nextOf, if_neg hcar, fromUtf8Lossy, ← List.append_nil (String.utf8EncodeChar _),
      decodeFrom_char]
    rfl

/-- **The last byte of a text, incremented**, changes the last character. -/
theorem fromUtf8Lossy_increment (u : Text) (c : Char) : ∃ i b,
    Text.utf8 (u ++ [c]) = i ++ [b] ∧ fromUtf8Lossy (i ++ [b + 1]) = u ++ nextOf c := by
  obtain ⟨i, b, henc, hdec⟩ := encode_increment c
  refine ⟨u.utf8 ++ i, b, ?_, ?_⟩
  · rw [Text.utf8_append, Text.utf8, Text.utf8, List.flatMap_singleton, henc, List.append_assoc]
  · rw [List.append_assoc, fromUtf8Lossy_utf8_append, hdec]

end MiniGateway.Utf8
