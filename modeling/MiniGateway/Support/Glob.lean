import MiniGateway.Support.Text

/-!
# Support — Glob

Path patterns: a plain path, or a base followed by `/*` or `/**`.  Both wildcards stand for the
base and everything below it, with a segment boundary after the base (`Covers`).

An implementation tests for the longer wildcard first, then for the shorter, and cuts the base
off by length.  `branch_wild` and `branch_plain` say what such a test comes to.
-/

namespace MiniGateway.Glob

/-- `pat` is a wildcard over `base`. -/
def Wild (pat base : Text) : Prop := pat = base ++ "/**".toList ∨ pat = base ++ "/*".toList

/-- `x` is `base`, or lies below it. -/
def Below (base x : Text) : Prop := x = base ∨ ∃ t, x = base ++ '/' :: t

/-- The paths a pattern stands for. -/
def Covers (pat x : Text) : Prop := x = pat ∨ ∃ base, Wild pat base ∧ Below base x

/-- No text ends in both wildcards. -/
theorem deep_ne_flat (b b' : Text) : b ++ "/**".toList ≠ b' ++ "/*".toList := by
  intro h
  have h' : (b ++ ['/']) ++ ['*', '*'] = b' ++ ['/', '*'] := by simpa using h
  exact absurd (List.append_inj' h' rfl).2 (by decide)

theorem Wild.functional {pat b b' : Text} (h : Wild pat b) (h' : Wild pat b') : b = b' := by
  rcases h with rfl | rfl <;> rcases h' with h' | h'
  · exact List.append_cancel_right h'
  · exact absurd h' (deep_ne_flat b b')
  · exact absurd h'.symm (deep_ne_flat b' b)
  · exact List.append_cancel_right h'

theorem take_base (b s : Text) {n : Nat} (hn : s.length = n) :
    (b ++ s).take ((b ++ s).length - n) = b := by
  rw [List.length_append, hn, Nat.add_sub_cancel, List.take_left]

section Branch

variable {α : Type} (f g : Text → α) {pat : Text}

/-- The test for a wildcard, taken on a wildcard over `base`, hands `base` on. -/
theorem branch_wild {base : Text} (h : Wild pat base) :
    (if pat.endsWith "/**" then f (pat.take (pat.length - 3))
      else if pat.endsWith "/*" then f (pat.take (pat.length - 2)) else g pat) = f base := by
  rcases h with rfl | rfl
  · rw [if_pos (Text.endsWith_append _ _)]
    exact congrArg f (take_base _ _ rfl)
  · have hd : Text.endsWith (base ++ "/*".toList) "/**" ≠ true := fun h => by
      obtain ⟨b, hb⟩ := Text.endsWith_iff.mp h
      exact deep_ne_flat b base hb.symm
    rw [if_neg hd, if_pos (Text.endsWith_append _ _)]
    exact congrArg f (take_base _ _ rfl)

/-- …and, taken on a pattern that is no wildcard, hands the pattern itself on. -/
theorem branch_plain (h : ∀ base, ¬ Wild pat base) :
    (if pat.endsWith "/**" then f (pat.take (pat.length - 3))
      else if pat.endsWith "/*" then f (pat.take (pat.length - 2)) else g pat) = g pat := by
  have hd : pat.endsWith "/**" ≠ true := fun h' => by
    obtain ⟨b, hb⟩ := Text.endsWith_iff.mp h'
    exact h b (Or.inl hb)
  have hf : pat.endsWith "/*" ≠ true := fun h' => by
    obtain ⟨b, hb⟩ := Text.endsWith_iff.mp h'
    exact h b (Or.inr hb)
  rw [if_neg hd, if_neg hf]

end Branch

/-- A wildcard covers what lies at or below its base. -/
theorem covers_wild {pat base x : Text} (h : Wild pat base) : Covers pat x ↔ Below base x := by
  refine ⟨fun hc => ?_, fun hb => Or.inr ⟨base, h, hb⟩⟩
  rcases hc with rfl | ⟨b, hw, hb⟩
  · rcases h with rfl | rfl
    · exact Or.inr ⟨['*', '*'], rfl⟩
    · exact Or.inr ⟨['*'], rfl⟩
  · rwa [h.functional hw]

/-- A plain pattern covers itself. -/
theorem covers_plain {pat x : Text} (h : ∀ base, ¬ Wild pat base) : Covers pat x ↔ x = pat :=
  ⟨fun hc => hc.resolve_right fun ⟨b, hw, _⟩ => h b hw, Or.inl⟩

end MiniGateway.Glob
