import Mathlib.Algebra.Order.Field.Power
import Mathlib.Tactic.Linarith
import Mathlib.Tactic.Positivity
import TableShell.Proofs.Number.Value

/-!
# Rounding to binary floating-point numbers

A positive fraction lies between two powers of two, which fix the grid of the numbers around it; its
nearest number is the nearest point of that grid. From this follow the statements about rounded
results: a result is off by at most half a step of the grid, a value that is on the grid stays as it
is, and a larger fraction has no smaller result.
-/

namespace TableShell

/-! ### Rounded quotients -/

/-- A quotient and its rest, in real numbers. -/
lemma cast_div_eq (num : Nat) {den : Nat} (hden : 0 < den) :
    (num : ℝ) / den = (num / den : Nat) + (num % den : Nat) / (den : ℝ) := by
  have hden' : (den : ℝ) ≠ 0 := Nat.cast_ne_zero.mpr hden.ne'
  have hsplit : (num : ℝ) = den * (num / den : Nat) + (num % den : Nat) := by
    exact_mod_cast (Nat.div_add_mod num den).symm
  rw [div_eq_iff hden', add_mul, div_mul_cancel₀ _ hden']
  linarith

/-- A quotient is rounded up if its rest is more than a half, or just a half above an odd number. -/
lemma roundedQuotient_eq (num den : Nat) :
    roundedQuotient num den = num / den +
      if den < 2 * (num % den) ∨ den = 2 * (num % den) ∧ num / den % 2 = 1 then 1 else 0 := by
  unfold roundedQuotient
  dsimp only
  grind

/-- A rounded quotient is off by at most a half. -/
lemma abs_roundedQuotient_sub_le (num : Nat) {den : Nat} (hden : 0 < den) :
    |(roundedQuotient num den : ℝ) - num / den| ≤ 1 / 2 := by
  have hden' : (0 : ℝ) < den := Nat.cast_pos.mpr hden
  have hrest : ((num % den : Nat) : ℝ) < den := Nat.cast_lt.mpr (Nat.mod_lt num hden)
  have hrest_nonneg : (0 : ℝ) ≤ ((num % den : Nat) : ℝ) / den := by positivity
  have hrest_lt : ((num % den : Nat) : ℝ) / den < 1 := (div_lt_one hden').mpr hrest
  rw [cast_div_eq num hden, abs_le]
  rw [roundedQuotient_eq]
  split
  · next hup =>
    have hle : (den : ℝ) ≤ 2 * ((num % den : Nat) : ℝ) := by
      exact_mod_cast (by omega : den ≤ 2 * (num % den))
    have hhalf : 1 / 2 ≤ ((num % den : Nat) : ℝ) / den := by
      rw [div_le_div_iff₀ two_pos hden']
      linarith
    push_cast
    constructor <;> linarith
  · next hdown =>
    have hle : 2 * ((num % den : Nat) : ℝ) ≤ den := by
      exact_mod_cast (by omega : 2 * (num % den) ≤ den)
    have hhalf : ((num % den : Nat) : ℝ) / den ≤ 1 / 2 := by
      rw [div_le_div_iff₀ hden' two_pos]
      linarith
    push_cast
    constructor <;> linarith

/-- A quotient that is a whole number is not changed by rounding. -/
lemma roundedQuotient_eq_of_div_eq {num den n : Nat} (hden : 0 < den)
    (h : (num : ℝ) / den = n) : roundedQuotient num den = n := by
  have hnear := abs_roundedQuotient_sub_le num hden
  rw [h] at hnear
  have hlt : |((roundedQuotient num den : Int) - (n : Int) : ℝ)| < 1 := by
    push_cast
    linarith
  have hzero : ((roundedQuotient num den : Int) - (n : Int)) = 0 := by
    rw [← Int.abs_lt_one_iff]
    exact_mod_cast hlt
  omega

/-- A larger quotient has no smaller rounded quotient. -/
lemma roundedQuotient_mono {num den num' den' : Nat} (hden : 0 < den) (hden' : 0 < den')
    (h : num * den' ≤ num' * den) : roundedQuotient num den ≤ roundedQuotient num' den' := by
  have hquotient : num / den ≤ num' / den' := by
    rw [Nat.le_div_iff_mul_le hden']
    have hfloor : num / den * den ≤ num := Nat.div_mul_le_self num den
    have hscaled : num / den * den' * den ≤ num' * den := by nlinarith
    exact Nat.le_of_mul_le_mul_right hscaled hden
  rw [roundedQuotient_eq, roundedQuotient_eq]
  rcases hquotient.lt_or_eq with hlt | heq
  · split <;> split <;> omega
  · -- With the same whole part, the rests decide.
    have hrest : num % den * den' ≤ num' % den' * den := by
      have hfirst := Nat.div_add_mod num den
      have hsecond := Nat.div_add_mod num' den'
      rw [← heq] at hsecond
      nlinarith
    have habove (hup : den < 2 * (num % den)) : den' < 2 * (num' % den') := by nlinarith
    have hmiddle (heven : den = 2 * (num % den)) : den' ≤ 2 * (num' % den') := by nlinarith
    rw [← heq]
    split <;> split <;> omega

namespace Binary64

/-! ### The grid around a fraction -/

/-- A power of two is compared with a fraction over the natural numbers. -/
lemma two_pow_le_div_iff (num : Nat) {den : Nat} (hden : 0 < den) (k : Int) :
    den * Nat.pow 2 k.toNat ≤ num * Nat.pow 2 (-k).toNat ↔ (2 : ℝ) ^ k ≤ num / den := by
  have hden' : (0 : ℝ) < den := Nat.cast_pos.mpr hden
  rw [← two_pow_toNat_div k, div_le_div_iff₀ (by positivity) hden', mul_comm den]
  simp only [Nat.pow_eq]
  exact_mod_cast Iff.rfl

/-- A positive fraction lies between the power of its leading exponent and the next one. -/
lemma leadingExponent_spec {num den : Nat} (hnum : 0 < num) (hden : 0 < den) :
    (2 : ℝ) ^ leadingExponent num den ≤ num / den ∧
      (num / den : ℝ) < 2 ^ (leadingExponent num den + 1) := by
  have hden' : (0 : ℝ) < den := Nat.cast_pos.mpr hden
  have hnum_ge : (2 : ℝ) ^ num.log2 ≤ num := by exact_mod_cast Nat.log2_self_le hnum.ne'
  have hnum_lt : (num : ℝ) < 2 ^ (num.log2 + 1) := by exact_mod_cast Nat.lt_log2_self
  have hden_ge : (2 : ℝ) ^ den.log2 ≤ den := by exact_mod_cast Nat.log2_self_le hden.ne'
  have hden_lt : (den : ℝ) < 2 ^ (den.log2 + 1) := by exact_mod_cast Nat.lt_log2_self
  unfold leadingExponent
  dsimp only
  generalize hk : (num.log2 : Int) - den.log2 = k
  split
  · next hle =>
    refine ⟨(two_pow_le_div_iff num hden k).mp hle, ?_⟩
    rw [div_lt_iff₀ hden']
    calc (num : ℝ)
      _ < 2 ^ (num.log2 + 1) := hnum_lt
      _ = (2 : ℝ) ^ (k + 1) * 2 ^ den.log2 := by
        rw [← zpow_natCast, ← zpow_natCast, ← zpow_add₀ two_ne_zero]
        congr 1
        push_cast
        omega
      _ ≤ (2 : ℝ) ^ (k + 1) * den := by gcongr
  · next hlt =>
    rw [two_pow_le_div_iff num hden k, not_le] at hlt
    refine ⟨?_, by rwa [sub_add_cancel]⟩
    rw [le_div_iff₀ hden']
    calc (2 : ℝ) ^ (k - 1) * den
      _ ≤ (2 : ℝ) ^ (k - 1) * 2 ^ (den.log2 + 1) := by gcongr
      _ = 2 ^ num.log2 := by
        rw [← zpow_natCast, ← zpow_natCast, ← zpow_add₀ two_ne_zero]
        congr 1
        push_cast
        omega
      _ ≤ num := hnum_ge

/-- The points `n * 2 ^ e` are the numbers around `x`: they have mantissas of 53 bits there, or of
fewer bits on the lowest grid. -/
structure GridAt (x : ℝ) (e : Int) : Prop where
  lowest_le : -1074 ≤ e
  lt : x < 2 ^ (e + 53)
  le : e = -1074 ∨ (2 : ℝ) ^ (e + 52) ≤ x

variable {x y : ℝ} {e f k : Int} {num den num' den' : Nat}

/-- The exponent of the grid around a fraction. -/
def gridExponent (num den : Nat) : Int :=
  max (leadingExponent num den - 52) (-1074)

/-- The exponent that is chosen for a fraction is that of the grid around it. -/
lemma gridAt_gridExponent (hnum : 0 < num) (hden : 0 < den) :
    GridAt (num / den) (gridExponent num den) := by
  obtain ⟨hge, hlt⟩ := leadingExponent_spec hnum hden
  unfold gridExponent
  refine ⟨le_max_right _ _, ?_, ?_⟩
  · refine hlt.trans_le (zpow_le_zpow_right₀ one_le_two ?_)
    omega
  · rcases le_total (leadingExponent num den - 52) (-1074) with hlow | hhigh
    · exact .inl (max_eq_right hlow)
    · rw [max_eq_left hhigh, sub_add_cancel]
      exact .inr hge

/-- The grid below a power of two is fine. -/
lemma GridAt.le_of_lt (h : GridAt x e) (hx : x < 2 ^ k) : e ≤ max (k - 53) (-1074) := by
  rcases h.le with rfl | hge
  · exact le_max_right _ _
  · have hlt : e + 52 < k := (zpow_lt_zpow_iff_right₀ one_lt_two).mp (hge.trans_lt hx)
    omega

/-- The grid does not get finer upwards. -/
lemma GridAt.mono (h : GridAt x e) (h' : GridAt y f) (hxy : x ≤ y) : e ≤ f := by
  have hle := h.le_of_lt (hxy.trans_lt h'.lt)
  have hlowest := h'.lowest_le
  omega

/-- The point of a grid that is nearest to a fraction, in steps of the grid. -/
def gridMantissa (num den : Nat) (e : Int) : Nat :=
  roundedQuotient (num * Nat.pow 2 (-e).toNat) (den * Nat.pow 2 e.toNat)

/-- The denominator on the grid is positive. -/
lemma gridDen_pos (hden : 0 < den) (e : Int) : 0 < den * Nat.pow 2 e.toNat :=
  Nat.mul_pos hden (Nat.pow_pos (by decide))

/-- A fraction in steps of a grid. -/
lemma div_gridDen (num den : Nat) (e : Int) :
    ((num * Nat.pow 2 (-e).toNat : Nat) : ℝ) / (den * Nat.pow 2 e.toNat : Nat) =
      num / den / 2 ^ e := by
  rw [← two_pow_toNat_div e]
  simp only [Nat.pow_eq]
  push_cast
  field_simp

/-- The point of the grid that is chosen is at most half a step away. -/
lemma abs_gridMantissa_sub_le (num : Nat) (hden : 0 < den) (e : Int) :
    |(gridMantissa num den e : ℝ) - num / den / 2 ^ e| ≤ 1 / 2 := by
  rw [← div_gridDen]
  exact abs_roundedQuotient_sub_le _ (gridDen_pos hden e)

/-- A fraction on the grid is its nearest point. -/
lemma gridMantissa_eq_of_div_eq {n : Nat} (hden : 0 < den) (h : (num : ℝ) / den = n * 2 ^ e) :
    gridMantissa num den e = n := by
  refine roundedQuotient_eq_of_div_eq (gridDen_pos hden e) ?_
  rw [div_gridDen, h, mul_div_cancel_right₀ _ (by positivity)]

/-- On one grid, a larger fraction has no smaller point. -/
lemma gridMantissa_mono (hden : 0 < den) (hden' : 0 < den') (h : num * den' ≤ num' * den)
    (e : Int) : gridMantissa num den e ≤ gridMantissa num' den' e := by
  refine roundedQuotient_mono (gridDen_pos hden e) (gridDen_pos hden' e) ?_
  calc num * Nat.pow 2 (-e).toNat * (den' * Nat.pow 2 e.toNat)
    _ = num * den' * (Nat.pow 2 (-e).toNat * Nat.pow 2 e.toNat) := by ring
    _ ≤ num' * den * (Nat.pow 2 (-e).toNat * Nat.pow 2 e.toNat) := Nat.mul_le_mul_right _ h
    _ = num' * Nat.pow 2 (-e).toNat * (den * Nat.pow 2 e.toNat) := by ring

/-- Mantissas have 53 bits, except for the power of two that is reached by rounding up. -/
lemma GridAt.gridMantissa_le (hden : 0 < den) (h : GridAt (num / den) e) :
    gridMantissa num den e ≤ 2 ^ 53 := by
  have hnear := (abs_le.mp (abs_gridMantissa_sub_le num hden e)).2
  have hsteps : (num / den : ℝ) / 2 ^ e < 2 ^ 53 := by
    rw [div_lt_iff₀ (by positivity), ← zpow_natCast, ← zpow_add₀ two_ne_zero, add_comm]
    exact h.lt
  have hlt : (gridMantissa num den e : ℝ) < (2 ^ 53 + 1 : Nat) := by
    push_cast
    linarith
  exact Nat.lt_succ_iff.mp (Nat.cast_lt.mp hlt)

/-- Above the lowest grid, a mantissa has all its bits. -/
lemma GridAt.le_gridMantissa (hden : 0 < den) (h : GridAt (num / den) e) (he : e ≠ -1074) :
    2 ^ 52 ≤ gridMantissa num den e := by
  have hnear := (abs_le.mp (abs_gridMantissa_sub_le num hden e)).1
  have hsteps : (2 : ℝ) ^ 52 ≤ num / den / 2 ^ e := by
    rw [le_div_iff₀ (by positivity), ← zpow_natCast, ← zpow_add₀ two_ne_zero, add_comm]
    exact h.le.resolve_left he
  have hlt : ((2 ^ 52 : Nat) : ℝ) < (gridMantissa num den e + 1 : Nat) := by
    push_cast
    linarith
  exact Nat.lt_succ_iff.mp (Nat.cast_lt.mp hlt)

/-- The nearest point to a larger fraction is not smaller. -/
lemma GridAt.gridMantissa_mul_mono (hden : 0 < den) (hden' : 0 < den')
    (hgrid : GridAt (num / den) e) (hgrid' : GridAt (num' / den') f) (hef : e ≤ f)
    (h : num * den' ≤ num' * den) :
    (gridMantissa num den e : ℝ) * 2 ^ e ≤ gridMantissa num' den' f * 2 ^ f := by
  rcases hef.lt_or_eq with hlt | rfl
  · -- Between different grids there is a power of two that is on both.
    have hlower : gridMantissa num den e ≤ 2 ^ 53 := hgrid.gridMantissa_le hden
    have hupper : 2 ^ 52 ≤ gridMantissa num' den' f :=
      hgrid'.le_gridMantissa hden' (by have := hgrid.lowest_le; omega)
    calc (gridMantissa num den e : ℝ) * 2 ^ e
      _ ≤ 2 ^ 53 * 2 ^ e := by gcongr; exact_mod_cast hlower
      _ = 2 ^ 52 * (2 : ℝ) ^ (e + 1) := by
        rw [zpow_add₀ two_ne_zero, zpow_one]
        ring
      _ ≤ 2 ^ 52 * (2 : ℝ) ^ f := by
        gcongr
        · exact one_le_two
        · omega
      _ ≤ gridMantissa num' den' f * 2 ^ f := by gcongr; exact_mod_cast hupper
  · have hmantissa := gridMantissa_mono hden hden' h e
    gcongr

/-! ### Rounded fractions -/

/-- Whether a mantissa on a grid is beyond the largest finite number. -/
def Overflows (mantissa : Nat) (e : Int) : Prop :=
  971 < e ∨ e = 971 ∧ 2 ^ 53 ≤ mantissa

instance (mantissa : Nat) (e : Int) : Decidable (Overflows mantissa e) :=
  inferInstanceAs (Decidable (_ ∨ _))

/-- What is beyond the largest number stays so upwards. -/
lemma Overflows.mono {m n : Nat} (h : Overflows m e) (hef : e ≤ f) (hsame : e = f → m ≤ n) :
    Overflows n f := by
  rcases hef.lt_or_eq with hlt | heq
  · rcases h with hover | ⟨rfl, -⟩
    · exact .inl (hover.trans hlt)
    · exact .inl hlt
  · rcases h with hover | ⟨rfl, hle⟩
    · exact .inl (hover.trans_le hef)
    · exact .inr ⟨heq.symm, hle.trans (hsame heq)⟩

/-- A positive fraction is rounded to the nearest point of its grid, if that is a number. -/
lemma ofFraction_eq (negative : Bool) (hnum : 0 < num) (den : Nat) :
    ofFraction negative num den =
      if Overflows (gridMantissa num den (gridExponent num den)) (gridExponent num den) then
        .infinite negative
      else .finite negative (gridMantissa num den (gridExponent num den))
        (gridExponent num den) := by
  have hzero : (num == 0) = false := beq_eq_false_iff_ne.mpr hnum.ne'
  unfold ofFraction
  rw [hzero]
  simp only [Bool.false_eq_true, if_false, Bool.or_eq_true, Bool.and_eq_true, decide_eq_true_eq,
    beq_iff_eq]
  rfl

/-- Negative fractions are rounded to the negatives of what positive ones are. -/
lemma value_ofFraction_true (num den : Nat) :
    (ofFraction true num den).value = -(ofFraction false num den).value := by
  rcases Nat.eq_zero_or_pos num with rfl | hnum
  · simp [ofFraction, value, finiteValue]
  · rw [ofFraction_eq true hnum, ofFraction_eq false hnum]
    split
    · exact EReal.neg_top.symm
    · simp [value, finiteValue]

/-- A fraction without a sign is rounded to a number that is not negative. -/
lemma value_ofFraction_nonneg (num den : Nat) : 0 ≤ (ofFraction false num den).value := by
  rcases Nat.eq_zero_or_pos num with rfl | hnum
  · simp [ofFraction, value, finiteValue]
  · rw [ofFraction_eq false hnum]
    split
    · exact le_top
    · have hvalue : (0 : ℝ) ≤ finiteValue false
          (gridMantissa num den (gridExponent num den)) (gridExponent num den) := by
        simp only [finiteValue, Bool.false_eq_true, if_false]
        positivity
      exact EReal.coe_nonneg.mpr hvalue

/-- A larger fraction has no smaller rounded value. -/
theorem value_ofFraction_mono (hden : 0 < den) (hden' : 0 < den')
    (h : num * den' ≤ num' * den) :
    (ofFraction false num den).value ≤ (ofFraction false num' den').value := by
  rcases Nat.eq_zero_or_pos num with rfl | hnum
  · have hzero : (ofFraction false 0 den).value = 0 := by simp [ofFraction, value, finiteValue]
    rw [hzero]
    exact value_ofFraction_nonneg num' den'
  have hnum' : 0 < num' := by
    refine Nat.pos_of_ne_zero ?_
    rintro rfl
    rw [zero_mul] at h
    exact absurd h (Nat.not_le.mpr (Nat.mul_pos hnum hden'))
  have hxy : (num / den : ℝ) ≤ num' / den' := by
    rw [div_le_div_iff₀ (Nat.cast_pos.mpr hden) (Nat.cast_pos.mpr hden')]
    exact_mod_cast h
  rw [ofFraction_eq false hnum, ofFraction_eq false hnum']
  have hgrid := gridAt_gridExponent hnum hden
  have hgrid' := gridAt_gridExponent hnum' hden'
  generalize gridExponent num den = e at hgrid ⊢
  generalize gridExponent num' den' = f at hgrid' ⊢
  have hef : e ≤ f := hgrid.mono hgrid' hxy
  have hsame : e = f → gridMantissa num den e ≤ gridMantissa num' den' f := by
    rintro rfl
    exact gridMantissa_mono hden hden' h e
  split
  · next hover =>
    rw [if_pos (hover.mono hef hsame)]
  · split
    · exact le_top
    · exact EReal.coe_le_coe_iff.mpr (hgrid.gridMantissa_mul_mono hden hden' hgrid' hef h)

/-- A fraction that is not too large is rounded to a point of the grid around it, which is off by at
most half a step. -/
theorem exists_ofFraction_near (negative : Bool) (hnum : 0 < num) (hden : 0 < den)
    (hlt : (num / den : ℝ) < 2 ^ (1023 : Int)) :
    ∃ (m : Nat) (e : Int), ofFraction negative num den = .finite negative m e ∧ m ≤ 2 ^ 53 ∧
      GridAt (num / den) e ∧ |(m : ℝ) * 2 ^ e - num / den| ≤ 2 ^ (e - 1) := by
  have hgrid := gridAt_gridExponent hnum hden
  have hle := hgrid.le_of_lt hlt
  rw [ofFraction_eq negative hnum]
  generalize gridExponent num den = e at hgrid hle ⊢
  have hfinite : ¬ Overflows (gridMantissa num den e) e := by
    unfold Overflows
    omega
  refine ⟨_, e, if_neg hfinite, hgrid.gridMantissa_le hden, hgrid, ?_⟩
  have hnear := abs_gridMantissa_sub_le num hden e
  have hsplit : (gridMantissa num den e : ℝ) * 2 ^ e - num / den =
      (gridMantissa num den e - num / den / 2 ^ e) * 2 ^ e := by
    rw [sub_mul, div_mul_cancel₀ _ (by positivity)]
  rw [hsplit, abs_mul, abs_of_pos (by positivity : (0 : ℝ) < 2 ^ e)]
  calc |(gridMantissa num den e : ℝ) - num / den / 2 ^ e| * 2 ^ e
    _ ≤ 1 / 2 * 2 ^ e := by gcongr
    _ = (2 : ℝ) ^ (e - 1) := by
      rw [zpow_sub₀ two_ne_zero, zpow_one]
      ring

/-- A number of 53 bits times a power of two is not changed by rounding. -/
theorem exists_ofFraction_eq {n : Nat} (negative : Bool) (hden : 0 < den)
    (h : (num : ℝ) / den = n * 2 ^ k) (hn : n < 2 ^ 53) (hlow : -1074 ≤ k) (hhigh : k ≤ 970) :
    ∃ (m : Nat) (e : Int), ofFraction negative num den = .finite negative m e ∧
      (m : ℝ) * 2 ^ e = num / den := by
  rcases Nat.eq_zero_or_pos num with rfl | hnum
  · exact ⟨0, 0, rfl, by simp⟩
  have hlt : (num / den : ℝ) < 2 ^ (k + 53) := by
    rw [h, add_comm, zpow_add₀ two_ne_zero]
    gcongr
    exact_mod_cast hn
  have hgrid := gridAt_gridExponent hnum hden
  have hle := hgrid.le_of_lt hlt
  rw [ofFraction_eq negative hnum]
  generalize gridExponent num den = e at hgrid hle ⊢
  have hek : e ≤ k := by omega
  have hfinite : ¬ Overflows (gridMantissa num den e) e := by
    unfold Overflows
    omega
  -- The grid around the fraction is at least as fine as the one it is given on.
  have hsteps : (num : ℝ) / den = (n * 2 ^ (k - e).toNat : Nat) * 2 ^ e := by
    rw [h]
    push_cast
    rw [mul_assoc, ← zpow_natCast, ← zpow_add₀ two_ne_zero]
    congr 2
    omega
  refine ⟨_, e, if_neg hfinite, ?_⟩
  rw [gridMantissa_eq_of_div_eq hden hsteps, hsteps]

/-! ### Integers -/

/-- A larger integer is not rounded to a smaller number. -/
theorem value_ofInt_mono {i j : Int} (h : i ≤ j) : (ofInt i).value ≤ (ofInt j).value := by
  have hnonneg (n : Int) (hn : 0 ≤ n) : (ofInt n) = ofFraction false n.natAbs 1 := by
    rw [ofInt, decide_eq_false (by omega)]
  have hneg (n : Int) (hn : n < 0) : (ofInt n) = ofFraction true n.natAbs 1 := by
    rw [ofInt, decide_eq_true hn]
  rcases lt_or_ge i 0 with hi | hi
  · rw [hneg i hi, value_ofFraction_true]
    rcases lt_or_ge j 0 with hj | hj
    · rw [hneg j hj, value_ofFraction_true]
      exact EReal.neg_le_neg_iff.mpr (value_ofFraction_mono one_pos one_pos (by omega))
    · rw [hnonneg j hj]
      exact (EReal.neg_le_zero.mpr (value_ofFraction_nonneg _ _)).trans
        (value_ofFraction_nonneg _ _)
  · rw [hnonneg i hi, hnonneg j (hi.trans h)]
    exact value_ofFraction_mono one_pos one_pos (by omega)

/-- An integer is rounded to a number. -/
lemma ofInt_ne_nan (i : Int) : ofInt i ≠ .nan := by
  unfold ofInt
  rcases Nat.eq_zero_or_pos i.natAbs with hzero | hpos
  · simp [ofFraction, hzero]
  · rw [ofFraction_eq _ hpos]
    split <;> simp

end Binary64

end TableShell
