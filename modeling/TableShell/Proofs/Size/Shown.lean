import TableShell.Proofs.Number.Tenths
import TableShell.Proofs.Size.Literal

/-!
# Byte counts as they are shown

A byte count below 1024 is shown as it is. A larger one is shown in tenths of a unit, and reading it
back gives the bytes of these tenths: it can be off by half a tenth of the unit, and by one more
byte because the tenths are read as a floating-point number whose whole part is taken. Counts that
are too large for the mantissa of a floating-point number lose some bytes more.
-/

namespace TableShell.Size

open Binary64

variable {text : String} {number unit : List Char} {b : Nat}

/-! ### Sizes with a unit -/

/-- A natural number is written in characters of a number. -/
lemma isNumberChar_of_mem_repr {n : Nat} {c : Char} (h : c ∈ n.repr.toList) :
    isNumberChar c = true := by
  rw [isNumberChar, List.all_eq_true.mp (all_isDigit_repr n) c h, Bool.true_or]

/-- The parts of a number and a unit with a blank between them. -/
def Parts.spaced {text : List Char} (htext : text = number ++ ' ' :: unit)
    (hnumber : ∀ c ∈ number, isNumberChar c = true) (hne : number ≠ [])
    (hunit : ∀ c ∈ unit, Text.isBlank c = false) : Parts text where
  before := []
  number := number
  gap := [' ']
  unit := unit
  after := []
  text_eq := htext.trans (List.append_nil _).symm
  before_blank := List.all_eq_true.mp rfl
  gap_blank := List.all_eq_true.mp rfl
  after_blank := List.all_eq_true.mp rfl
  number_isDecimal := fun c hc => isNumberChar_iff.mp (hnumber c hc)
  number_ends := by
    rintro c ⟨⟩
    decide
  gap_eq_nil := fun hnil => absurd hnil hne
  unit_trimmed := Text.trimChars_eq_self hunit

/-- A number and a unit with a blank between them are read as that many of the unit. -/
lemma parse?_unit (htext : text.toList = number ++ ' ' :: unit)
    (hnumber : ∀ c ∈ number, isNumberChar c = true) (hne : number ≠ [])
    (hunit : unit.any Text.isBlank = false) :
    parse? text =
      (readChars? number).map fun x => (x.scale (unitExponent unit)).truncate maxWord := by
  have hunit : ∀ c ∈ unit, Text.isBlank c = false := by simpa using hunit
  exact (Parts.spaced htext hnumber hne hunit).parse?_eq

/-! ### The unit that is shown -/

/-- The binary exponent of the unit in which a byte count is shown. -/
def shownExponent (bytes : Nat) : Nat :=
  if bytes < 2 ^ 10 then 0 else if bytes < 2 ^ 20 then 10 else if bytes < 2 ^ 30 then 20 else 30

/-- No size is shown in a unit that is larger than a gigabyte. -/
lemma shownExponent_le (bytes : Nat) : shownExponent bytes ≤ 30 := by
  unfold shownExponent
  split_ifs <;> decide

/-- The unit is chosen on the byte count itself. -/
lemma format_eq (bytes : Nat) :
    format bytes =
      if bytes < 2 ^ 10 then bytes.repr ++ " B"
      else if bytes < 2 ^ 20 then ((ofNat bytes).scale (-10)).toFixed 1 ++ " KB"
      else if bytes < 2 ^ 30 then ((ofNat bytes).scale (-20)).toFixed 1 ++ " MB"
      else ((ofNat bytes).scale (-30)).toFixed 1 ++ " GB" := by
  have hbelow {k : Nat} (hk : k < 53) :
      ((ofNat bytes).compare? (ofNat (Nat.pow 2 k)) == some .lt) = true ↔ bytes < 2 ^ k := by
    rw [beq_iff_eq, compare?_two_pow hk]
  unfold format
  simp only [hbelow (by decide : 10 < 53), hbelow (by decide : 20 < 53),
    hbelow (by decide : 30 < 53)]

/-- A count of at least 1024 bytes is shown with one decimal place of its unit. -/
lemma exists_format_eq (h : 2 ^ 10 ≤ b) :
    ∃ unit : List Char, (format b).toList =
        (((ofNat b).scale (-shownExponent b)).toFixed 1).toList ++ ' ' :: unit ∧
      unitExponent unit = shownExponent b ∧ unit.any Text.isBlank = false ∧ unit ≠ [] := by
  rw [format_eq, shownExponent, if_neg h.not_gt, if_neg h.not_gt]
  split_ifs
  · exact ⟨['K', 'B'], by simp, rfl, rfl, by decide⟩
  · exact ⟨['M', 'B'], by simp, rfl, rfl, by decide⟩
  · exact ⟨['G', 'B'], by simp, rfl, rfl, by decide⟩

/-! ### Reading what is shown -/

/-- A count below 1024 bytes is shown as it is. -/
theorem bytesOf_format_of_lt (h : b < 2 ^ 10) : bytesOf (format b) = b := by
  have htext : (format b).toList = b.repr.toList ++ ' ' :: ['B'] := by
    rw [format_eq, if_pos h, String.toList_append]
    rfl
  have hdigits (c : Char) (hc : c ∈ b.repr.toList) : isNumberChar c = true :=
    isNumberChar_of_mem_repr hc
  have hunit : unitExponent ['B'] = 0 := rfl
  have hlimit : b * 2 ^ 0 ≤ maxWord := by
    rw [pow_zero, mul_one]
    exact h.le.trans (by decide)
  rw [bytesOf, parse?_unit htext hdigits (repr_ne_nil b) rfl, readChars?_repr, hunit,
    Option.map_some, Option.getD_some, truncate_scale_ofNat _ (h.trans (by decide)) (by decide),
    min_eq_left hlimit, pow_zero, mul_one]

/-- A number of tenths of a unit is read back as the number nearest to it. -/
lemma bytesOf_tenths {n : Nat} (htext : text.toList = (withPoint 1 n).toList ++ ' ' :: unit)
    (hunit : unit.any Text.isBlank = false) :
    bytesOf text = ((ofFraction false n 10).scale (unitExponent unit)).truncate maxWord := by
  have hread := readChars?_withPoint_one n
  have hnumber (c : Char) (hc : c ∈ (withPoint 1 n).toList) : isNumberChar c = true := by
    rw [toList_withPoint_one, List.mem_append, List.mem_cons] at hc
    rcases hc with hc | rfl | hc
    · exact isNumberChar_of_mem_repr hc
    · decide
    · exact isNumberChar_of_mem_repr hc
  have hnonempty : (withPoint 1 n).toList ≠ [] := by
    rw [toList_withPoint_one]
    simp
  rw [bytesOf, parse?_unit htext hnumber hnonempty hunit, hread]
  rfl

/-- The bytes that are read back where a count is shown in tenths of `2 ^ k` bytes. -/
def bytesIn (k b : Nat) : Nat :=
  ((ofFraction false ((ofNat b).scale (-k)).tenths 10).scale k).truncate maxWord

/-- A count in a unit is a finite number. -/
lemma exists_scale_ofNat {k : Nat} (hk : k ≤ 30) (hb : b < 2 ^ 64) :
    ∃ (m : Nat) (e : Int), (ofNat b).scale (-k) = .finite false m e ∧
      |(m : ℝ) * 2 ^ e * 2 ^ k - b| ≤ if b < 2 ^ 53 then 0 else 2 ^ 10 := by
  obtain ⟨m, e, q, i, hfinite, hvalue, hq, hlow, hhigh, hloss⟩ := exists_ofNat_near hb
  obtain ⟨m', f, hscale, hunits⟩ :=
    exists_scale_eq (k := -k) false hvalue hq (by omega) (by omega)
  refine ⟨m', f, by rw [hfinite, hscale], ?_⟩
  rw [hunits, zpow_add₀ two_ne_zero, zpow_neg, zpow_natCast, ← mul_assoc,
    inv_mul_cancel_right₀ (by positivity)]
  exact hloss

/-- A count of at least 1024 bytes is read back from tenths of its unit. -/
lemma bytesOf_format_eq (h : 2 ^ 10 ≤ b) (hb : b < 2 ^ 64) :
    bytesOf (format b) = bytesIn (shownExponent b) b := by
  obtain ⟨unit, htext, hunit, hblank, -⟩ := exists_format_eq h
  obtain ⟨m, e, hscale, -⟩ := exists_scale_ofNat (shownExponent_le b) hb
  rw [hscale, toFixed_one] at htext
  rw [bytesOf_tenths htext hblank, hunit, bytesIn, hscale]

/-- The tenths of a unit that are shown for a count are off by at most half a tenth, and by what is
lost when the count is rounded to a floating-point number. -/
lemma abs_tenths_scale_sub_le {k : Nat} (hk : k ≤ 30) (hb : b < 2 ^ 64) :
    |(((ofNat b).scale (-k)).tenths : ℝ) / (10 : Nat) * 2 ^ k - b| ≤
      2 ^ k / 20 + if b < 2 ^ 53 then 0 else 2 ^ 10 := by
  obtain ⟨m, e, hscale, hloss⟩ := exists_scale_ofNat hk hb
  have hnear := abs_tenths_sub_le m e
  rw [hscale]
  generalize (finite false m e).tenths = n at hnear ⊢
  have hsplit : (n : ℝ) / (10 : Nat) * 2 ^ k - m * 2 ^ e * 2 ^ k =
      (n - 10 * (m * 2 ^ e)) * (2 ^ k / 10) := by
    push_cast
    ring
  have hrounded : |(n : ℝ) / (10 : Nat) * 2 ^ k - m * 2 ^ e * 2 ^ k| ≤ 2 ^ k / 20 := by
    rw [hsplit, abs_mul, abs_of_pos (by positivity : (0 : ℝ) < 2 ^ k / 10)]
    calc |(n : ℝ) - 10 * (m * 2 ^ e)| * (2 ^ k / 10)
      _ ≤ 1 / 2 * (2 ^ k / 10) := by gcongr
      _ = 2 ^ k / 20 := by ring
  exact (abs_sub_le _ _ _).trans (add_le_add hrounded hloss)

/-- Reading the tenths of a count below `2 ^ j` adds half a step of the grid below `2 ^ (j + 1)`. -/
lemma abs_bytesOf_format_sub_le_add {j : Nat} (h : 2 ^ 10 ≤ b) (hb : b ≤ maxWord)
    (hlt : b < 2 ^ j) (hj : 53 ≤ j) (hj' : j ≤ 64) :
    |(bytesOf (format b) : ℝ) - b| ≤
      2 ^ shownExponent b / 20 + (if b < 2 ^ 53 then 0 else 2 ^ 10) + 2 ^ (j - 53) := by
  have hword : b < 2 ^ 64 := hb.trans_lt (by decide)
  have hk := shownExponent_le b
  have htenths := abs_tenths_scale_sub_le hk hword
  have hloss : (if b < 2 ^ 53 then 0 else 2 ^ 10 : ℝ) ≤ 2 ^ 10 := by split_ifs <;> norm_num
  rw [bytesOf_format_eq h hword, bytesIn]
  generalize shownExponent b = k at hk htenths ⊢
  generalize ((ofNat b).scale (-k)).tenths = n at htenths ⊢
  generalize (if b < 2 ^ 53 then 0 else 2 ^ 10 : ℝ) = loss at hloss htenths ⊢
  have hscaled : (n : ℝ) / (10 : Nat) * 2 ^ k < 2 ^ (j + 1) := by
    have hlt' : (b : ℝ) < 2 ^ j := by exact_mod_cast hlt
    have hunit : (2 : ℝ) ^ k ≤ 2 ^ 30 := pow_le_pow_right₀ one_le_two hk
    have hgrid : (2 : ℝ) ^ 53 ≤ 2 ^ j := pow_le_pow_right₀ one_le_two hj
    have hupper := (abs_le.mp htenths).2
    rw [pow_succ]
    linarith
  have htenths_lt : (n / (10 : Nat) : ℝ) < 2 ^ ((j + 1 : Nat) - k : Int) := by
    rw [zpow_sub₀ two_ne_zero, zpow_natCast, zpow_natCast, lt_div_iff₀ (by positivity)]
    exact hscaled
  have hread := abs_truncate_scale_sub_le (by decide) htenths_lt (by omega) (by omega) (by omega)
    (Nat.cast_le.mpr hb)
  have hexponent : ((j + 1 : Nat) - 54 : Int) = (j - 53 : Nat) := by omega
  rw [hexponent, zpow_natCast] at hread
  linarith

/-- How far the bytes that are shown for a count can be off: half a tenth of the unit, and what the
floating-point numbers lose on the way. -/
def shownError (bytes : Nat) : ℚ :=
  if bytes < 2 ^ 10 then 0
  else 2 ^ shownExponent bytes / 20 + (if bytes < 2 ^ 53 then 1 else 2 ^ 12 : Nat)

/-- What is shown for a byte count is read back as a count near to it. -/
theorem abs_bytesOf_format_sub_le (hb : b ≤ maxWord) :
    |(bytesOf (format b) : ℚ) - b| ≤ shownError b := by
  rcases lt_or_ge b (2 ^ 10) with h | h
  · rw [bytesOf_format_of_lt h, sub_self, abs_zero, shownError, if_pos h]
  rw [shownError, if_neg h.not_gt]
  rcases lt_or_ge b (2 ^ 53) with hsmall | hlarge
  · have hread := abs_bytesOf_format_sub_le_add h hb hsmall le_rfl (by decide)
    rw [if_pos hsmall] at hread ⊢
    rw [← Rat.cast_le (K := ℝ)]
    push_cast
    linarith
  · have hread := abs_bytesOf_format_sub_le_add h hb (hb.trans_lt (by decide : maxWord < 2 ^ 64))
      (by decide) le_rfl
    rw [if_neg hlarge.not_gt] at hread ⊢
    rw [← Rat.cast_le (K := ℝ)]
    push_cast
    linarith

end TableShell.Size
