import TableShell.Proofs.Size.Shown

/-!
# The order of byte counts that are shown

What is shown for the larger of two byte counts is not read back as the smaller one. In the same
unit every step from a count to the bytes that are read back keeps the order: the rounding to a
floating-point number, the tenths of the unit, the number that is read and its whole part. Counts in
different units are separated by the larger unit, which is read back as it is from both of them:
what is just below a unit can only be rounded up to the unit itself.
-/

namespace TableShell.Size

open Binary64

variable {a b k : Nat}

/-! ### One unit -/

/-- In one unit what is shown for a larger count is not read back as less. -/
lemma bytesIn_mono (hk : k ≤ 30) (hab : a ≤ b) (hb : b < 2 ^ 64) : bytesIn k a ≤ bytesIn k b := by
  obtain ⟨m, e, hscale, -⟩ := exists_scale_ofNat hk (hab.trans_lt hb)
  obtain ⟨m', f, hscale', -⟩ := exists_scale_ofNat hk hb
  have hcounts : (ofNat a).value ≤ (ofNat b).value :=
    value_ofFraction_mono one_pos one_pos (Nat.mul_le_mul_right 1 hab)
  have hunits := (unsigned_ofFraction a 1).value_scale_mono (unsigned_ofFraction b 1) hcounts (-k)
  have hscaled : (finite false m e).value ≤ (finite false m' f).value := by
    rw [← hscale, ← hscale']
    exact hunits
  have htenths : (finite false m e).tenths ≤ (finite false m' f).tenths :=
    tenths_mono (EReal.coe_le_coe_iff.mp hscaled)
  have hread := value_ofFraction_mono (by decide) (by decide) (Nat.mul_le_mul_right 10 htenths)
  have hunsigned (n : Nat) : (ofFraction false n 10).Unsigned := unsigned_ofFraction n 10
  have hbytes := (hunsigned _).value_scale_mono (hunsigned _) hread k
  rw [bytesIn, bytesIn, hscale, hscale']
  exact ((hunsigned _).scale k).truncate_mono ((hunsigned _).scale k) hbytes maxWord

/-- A power of two is read back as it is from a unit that is not larger. -/
lemma bytesIn_two_pow {j : Nat} (hkj : k ≤ j) (hj : j ≤ 40) : bytesIn k (2 ^ j) = 2 ^ j := by
  have hsmall : 2 ^ j < 2 ^ 53 := Nat.pow_lt_pow_right (by decide) (by omega)
  have hunits_lt : 2 ^ (j - k) < 2 ^ 53 := Nat.pow_lt_pow_right (by decide) (by omega)
  obtain ⟨m, e, hfinite, hm⟩ := exists_ofNat_eq hsmall
  have hpower : (m : ℝ) * 2 ^ e = (1 : Nat) * 2 ^ (j : Int) := by
    rw [hm, zpow_natCast]
    push_cast
    ring
  obtain ⟨m', f, hscale, hvalue⟩ :=
    exists_scale_eq (k := -k) false hpower (by decide) (by omega) (by omega)
  have hunits : (m' : ℝ) * 2 ^ f = (2 ^ (j - k) : Nat) := by
    rw [hvalue, zpow_add₀ two_ne_zero, ← mul_assoc, hpower, Nat.cast_one, one_mul,
      ← zpow_add₀ two_ne_zero, ← sub_eq_add_neg, ← Nat.cast_sub hkj, zpow_natCast]
    push_cast
    rfl
  have hread : ((10 * 2 ^ (j - k) : Nat) : ℝ) / (10 : Nat) = (2 ^ (j - k) : Nat) := by
    push_cast
    ring
  have hword : 2 ^ j ≤ maxWord :=
    (Nat.pow_le_pow_right (by decide) hj).trans (by decide)
  rw [bytesIn, hfinite, hscale, tenths_eq_of_eq hunits,
    truncate_scale_of_div_eq maxWord (by decide) hread hunits_lt (by omega), ← pow_add,
    Nat.sub_add_cancel hkj, min_eq_left hword]

/-! ### Different units -/

/-- A count of at least 1024 bytes is at least one of its unit. -/
lemma two_pow_shownExponent_le (h : 2 ^ 10 ≤ b) : 2 ^ shownExponent b ≤ b := by
  unfold shownExponent
  split_ifs <;> omega

/-- A count in a smaller unit is less than one of the next unit. -/
lemma exists_next_unit (h : shownExponent a < shownExponent b) :
    a < 2 ^ (shownExponent a + 10) ∧ shownExponent a + 10 ≤ shownExponent b := by
  unfold shownExponent at h ⊢
  split_ifs at h ⊢ <;> omega

/-- More bytes are shown in no smaller unit. -/
lemma shownExponent_mono (hab : a ≤ b) : shownExponent a ≤ shownExponent b := by
  unfold shownExponent
  split_ifs <;> omega

/-- What is shown is read back as at least one of the unit. -/
lemma two_pow_shownExponent_le_bytesOf (h : 2 ^ 10 ≤ b) (hb : b < 2 ^ 64) :
    2 ^ shownExponent b ≤ bytesOf (format b) := by
  have hk := shownExponent_le b
  calc 2 ^ shownExponent b
    _ = bytesIn (shownExponent b) (2 ^ shownExponent b) :=
      (bytesIn_two_pow le_rfl (by omega)).symm
    _ ≤ bytesIn (shownExponent b) b := bytesIn_mono hk (two_pow_shownExponent_le h) hb
    _ = bytesOf (format b) := (bytesOf_format_eq h hb).symm

/-- What is shown for the larger of two counts is not read back as the smaller one. -/
theorem bytesOf_format_mono (hab : a ≤ b) (hb : b ≤ maxWord) :
    bytesOf (format a) ≤ bytesOf (format b) := by
  have hb : b < 2 ^ 64 := hb.trans_lt (by decide)
  rcases lt_or_ge b (2 ^ 10) with hsmall | hlarge
  · rw [bytesOf_format_of_lt hsmall, bytesOf_format_of_lt (hab.trans_lt hsmall)]
    exact hab
  have hunit := two_pow_shownExponent_le_bytesOf hlarge hb
  rcases lt_or_ge a (2 ^ 10) with hbytes | hunits
  · have hbelow : 2 ^ 10 ≤ 2 ^ shownExponent b := by
      refine Nat.pow_le_pow_right (by decide) ?_
      unfold shownExponent
      split_ifs <;> omega
    rw [bytesOf_format_of_lt hbytes]
    exact hbytes.le.trans (hbelow.trans hunit)
  rcases (shownExponent_mono hab).lt_or_eq with hlt | heq
  · obtain ⟨hnext, hstep⟩ := exists_next_unit hlt
    have hk := shownExponent_le b
    have hpower : 2 ^ (shownExponent a + 10) < 2 ^ 64 :=
      Nat.pow_lt_pow_right (by decide) (by omega)
    calc bytesOf (format a)
      _ = bytesIn (shownExponent a) a := bytesOf_format_eq hunits (hab.trans_lt hb)
      _ ≤ bytesIn (shownExponent a) (2 ^ (shownExponent a + 10)) :=
        bytesIn_mono (shownExponent_le a) hnext.le hpower
      _ = 2 ^ (shownExponent a + 10) := bytesIn_two_pow (by omega) (by omega)
      _ ≤ 2 ^ shownExponent b := Nat.pow_le_pow_right (by decide) hstep
      _ ≤ bytesOf (format b) := hunit
  · calc bytesOf (format a)
      _ = bytesIn (shownExponent a) a := bytesOf_format_eq hunits (hab.trans_lt hb)
      _ ≤ bytesIn (shownExponent a) b := bytesIn_mono (shownExponent_le a) hab hb
      _ = bytesOf (format b) := by rw [heq, bytesOf_format_eq hlarge hb]

/-- Byte counts keep their order when they are shown and read back. A count of at most 53 bits is
read back as it is if it is below 1024, and otherwise it is off by at most a twentieth of the unit
that is shown and one byte more. -/
theorem bytesOf_format_order (hab : a ≤ b) (hb : b ≤ maxWord) :
    bytesOf (format a) ≤ bytesOf (format b) ∧
      (b < 2 ^ 53 →
        (b < 2 ^ 10 → bytesOf (format b) = b) ∧
          (2 ^ 10 ≤ b → ∃ number unit : List Char,
            (format b).toList = number ++ ' ' :: unit ∧ unit.any Text.isBlank = false ∧
              |(bytesOf (format b) : ℚ) - b| ≤ 2 ^ unitExponent unit / 20 + 1)) := by
  refine ⟨bytesOf_format_mono hab hb, ?_⟩
  intro hsmall
  refine ⟨bytesOf_format_of_lt, ?_⟩
  intro hunits
  obtain ⟨unit, htext, hunit, hblank, -⟩ := exists_format_eq hunits
  have hnear := abs_bytesOf_format_sub_le hb
  rw [shownError, if_neg hunits.not_gt, if_pos hsmall, Nat.cast_one, ← hunit] at hnear
  exact ⟨_, unit, htext, hblank, hnear⟩

/-- In particular the last count before a unit is shown as 1024 of the unit below, and it is read
back as the next one. -/
theorem bytesOf_format_order_nextUnit :
    format 0xFFFFF = "1024.0 KB" ∧ format 0x100000 = "1.0 MB" ∧
      bytesOf (format 0xFFFFF) = 0x100000 ∧
      bytesOf (format 0xFFFFF) ≤ bytesOf (format 0x100000) :=
  ⟨by decide +kernel, by decide +kernel, by decide +kernel,
    (bytesOf_format_order (by decide) (by decide)).1⟩

end TableShell.Size
