import TableShell.Number.FixedPlaces
import TableShell.Proofs.Number.Reading
import TableShell.Proofs.Number.Rounding

/-!
# Numbers with one decimal place

A number that is written with one decimal place is rounded to a whole number of tenths. What is
written is read back as the number nearest to these tenths.
-/

namespace TableShell

/-! ### Digits -/

/-- The last digit of a number adds its own value. -/
lemma valueOfDigits_concat (cs : List Char) (c : Char) :
    valueOfDigits (cs ++ [c]) = 10 * valueOfDigits cs + digitValue c := by
  simp only [valueOfDigits, List.foldl_append, List.foldl_cons, List.foldl_nil]

/-- A number below ten is written with one digit. -/
lemma exists_repr_eq_singleton {d : Nat} (hd : d < 10) :
    ∃ c, d.repr.toList = [c] ∧ digitValue c = d := by
  have hall : ∀ d < 10, d.repr.toList = [Nat.digitChar d] ∧ digitValue (Nat.digitChar d) = d := by
    decide
  exact ⟨_, hall d hd⟩

namespace Binary64

/-! ### Tenths -/

/-- The text of a number of tenths. -/
lemma toList_withPoint_one (n : Nat) :
    (withPoint 1 n).toList = (n / 10).repr.toList ++ '.' :: (n % 10).repr.toList := by
  obtain ⟨c, hc, -⟩ := exists_repr_eq_singleton (Nat.mod_lt n (by decide : 0 < 10))
  have hlength : (n % Nat.pow 10 1).repr.length = 1 := by
    rw [← String.length_toList]
    exact congrArg List.length hc
  unfold withPoint
  rw [if_neg (by decide)]
  dsimp only
  rw [hlength]
  simp

/-- A number of tenths is read as the number nearest to it. -/
lemma readChars?_withPoint_one (n : Nat) :
    readChars? (withPoint 1 n).toList = some (ofFraction false n 10) := by
  obtain ⟨d, hd, hvalue⟩ := exists_repr_eq_singleton (Nat.mod_lt n (by decide : 0 < 10))
  have hdigits := List.all_eq_true.mp (all_isDigit_repr (n / 10))
  have hdigits' := List.all_eq_true.mp (all_isDigit_repr (n % 10))
  have hread := readDecimal?_point false (List.append_ne_nil_of_left_ne_nil (repr_ne_nil _) _)
    hdigits hdigits'
  have hvalue : valueOfDigits ((n / 10).repr.toList ++ (n % 10).repr.toList) = n := by
    rw [hd, valueOfDigits_concat, valueOfDigits_repr, hvalue]
    exact Nat.div_add_mod n 10
  rw [toList_withPoint_one, readChars?_of_isDecimal (isDecimal_point hdigits hdigits'), hread,
    hvalue, hd, List.length_singleton, ofDecimal_eq false n _ (by decide) (by decide)]
  simp

/-- The tenths that are written for a number which is not negative. -/
def tenths : Binary64 → Nat
  | .finite _ m e => roundedQuotient ((scaledFraction m e).1 * Nat.pow 10 1) (scaledFraction m e).2
  | _ => 0

/-- A number without a sign is written with one place as its tenths with a point. -/
lemma toFixed_one (m : Nat) (e : Int) :
    (finite false m e).toFixed 1 = withPoint 1 (finite false m e).tenths := by
  simp [toFixed, tenths]

/-- The tenths of a number before they are rounded. -/
lemma scaledFraction_tenths (m : Nat) (e : Int) :
    (((scaledFraction m e).1 * Nat.pow 10 1 : Nat) : ℝ) / (scaledFraction m e).2 =
      10 * (m * 2 ^ e) := by
  rw [← scaledFraction_div m e]
  push_cast
  ring

/-- With one decimal place a number is off by at most half a tenth. -/
lemma abs_tenths_sub_le (m : Nat) (e : Int) :
    |((finite false m e).tenths : ℝ) - 10 * (m * 2 ^ e)| ≤ 1 / 2 := by
  rw [← scaledFraction_tenths]
  exact abs_roundedQuotient_sub_le _ (scaledFraction_snd_pos m e)

/-- A whole number is written with ten times as many tenths. -/
lemma tenths_eq_of_eq {m n : Nat} {e : Int} (h : (m : ℝ) * 2 ^ e = n) :
    (finite false m e).tenths = 10 * n := by
  refine roundedQuotient_eq_of_div_eq (scaledFraction_snd_pos m e) ?_
  rw [scaledFraction_tenths, h]
  push_cast
  rfl

/-- A larger number is written with no fewer tenths. -/
lemma tenths_mono {m m' : Nat} {e f : Int} (h : (m : ℝ) * 2 ^ e ≤ m' * 2 ^ f) :
    (finite false m e).tenths ≤ (finite false m' f).tenths := by
  have hden := scaledFraction_snd_pos m e
  have hden' := scaledFraction_snd_pos m' f
  refine roundedQuotient_mono hden hden' ?_
  have hle : (((scaledFraction m e).1 * Nat.pow 10 1 : Nat) : ℝ) / (scaledFraction m e).2 ≤
      ((scaledFraction m' f).1 * Nat.pow 10 1 : Nat) / (scaledFraction m' f).2 := by
    rw [scaledFraction_tenths, scaledFraction_tenths]
    exact mul_le_mul_of_nonneg_left h (by norm_num)
  rw [div_le_div_iff₀ (Nat.cast_pos.mpr hden) (Nat.cast_pos.mpr hden')] at hle
  exact_mod_cast hle

end Binary64

end TableShell
