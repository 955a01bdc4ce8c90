import Mathlib.Data.EReal.Operations
import Mathlib.Order.Compare
import Mathlib.Tactic.FieldSimp
import Mathlib.Tactic.Ring
import TableShell.Number.Binary64

/-!
# The values of binary floating-point numbers

Every number except the one that is not a number has a value on the extended real line, and numbers
are compared as their values are. A statement about a rounded result speaks of its value: how far it
is from the exact one, and where it stands among the values of other results.
-/

namespace TableShell

/-- A power of two with a whole exponent is a fraction of powers with natural exponents. -/
lemma two_pow_toNat_div (e : Int) :
    (2 : ℝ) ^ e.toNat / (2 : ℝ) ^ (-e).toNat = (2 : ℝ) ^ e := by
  rw [← zpow_natCast, ← zpow_natCast, ← zpow_sub₀ (by norm_num)]
  congr 1
  omega

/-- A scaled number as a fraction has its value. -/
lemma scaledFraction_div (n : Nat) (e : Int) :
    ((scaledFraction n e).1 : ℝ) / (scaledFraction n e).2 = n * (2 : ℝ) ^ e := by
  rw [← two_pow_toNat_div e]
  simp only [scaledFraction, Nat.pow_eq]
  push_cast
  ring

/-- The denominator of a scaled number is positive. -/
lemma scaledFraction_snd_pos (n : Nat) (e : Int) : 0 < (scaledFraction n e).2 :=
  Nat.pow_pos (by decide)

namespace Binary64

/-! ### Values -/

/-- The value of a finite number. -/
noncomputable def finiteValue (negative : Bool) (mantissa : Nat) (exponent : Int) : ℝ :=
  if negative then -(mantissa * (2 : ℝ) ^ exponent) else mantissa * (2 : ℝ) ^ exponent

/-- The value of a number. What is not a number has none and gets `0`. -/
noncomputable def value : Binary64 → EReal
  | .nan => 0
  | .infinite true => ⊥
  | .infinite false => ⊤
  | .finite negative mantissa exponent => (finiteValue negative mantissa exponent : ℝ)

/-- A finite number as a signed fraction has its value. -/
lemma signedFraction_div (negative : Bool) (mantissa : Nat) (exponent : Int) :
    ((signedFraction negative mantissa exponent).1 : ℝ) /
        (signedFraction negative mantissa exponent).2 =
      finiteValue negative mantissa exponent := by
  have hdiv := scaledFraction_div mantissa exponent
  unfold signedFraction finiteValue
  cases negative with
  | false => simpa using hdiv
  | true => simpa [neg_div] using hdiv

/-- The denominator of a signed fraction is positive. -/
lemma signedFraction_snd_pos (negative : Bool) (mantissa : Nat) (exponent : Int) :
    0 < (signedFraction negative mantissa exponent).2 :=
  scaledFraction_snd_pos mantissa exponent

/-! ### The order of values -/

/-- Fractions are compared as their values are. -/
lemma compareFractions_compares {a c : Int} {b d : Nat} (hb : 0 < b) (hd : 0 < d) :
    (compareFractions a b c d).Compares ((a : ℝ) / b) ((c : ℝ) / d) := by
  have hb' : (0 : ℝ) < b := Nat.cast_pos.mpr hb
  have hd' : (0 : ℝ) < d := Nat.cast_pos.mpr hd
  unfold compareFractions
  cases h : compare (a * d : Int) (c * b) with
  | lt =>
    have hlt : (a * d : Int) < c * b := compare_lt_iff_lt.mp h
    rw [Ordering.Compares, div_lt_div_iff₀ hb' hd']
    exact_mod_cast hlt
  | eq =>
    have heq : (a * d : Int) = c * b := compare_eq_iff_eq.mp h
    rw [Ordering.Compares, div_eq_div_iff hb'.ne' hd'.ne']
    exact_mod_cast heq
  | gt =>
    have hgt : (c * b : Int) < a * d := compare_gt_iff_gt.mp h
    rw [Ordering.Compares, gt_iff_lt, div_lt_div_iff₀ hd' hb']
    exact_mod_cast hgt

/-- Two numbers are compared as their values are. -/
theorem exists_compare?_compares {x y : Binary64} (hx : x ≠ .nan) (hy : y ≠ .nan) :
    ∃ o, x.compare? y = some o ∧ o.Compares x.value y.value := by
  cases x with
  | nan => exact absurd rfl hx
  | infinite s =>
    cases y with
    | nan => exact absurd rfl hy
    | infinite t =>
      refine ⟨_, rfl, ?_⟩
      cases s <;> cases t
      · exact rfl
      · exact bot_lt_top
      · exact bot_lt_top
      · exact rfl
    | finite t n f =>
      refine ⟨_, rfl, ?_⟩
      cases s with
      | false => exact EReal.coe_lt_top _
      | true => exact EReal.bot_lt_coe _
  | finite s m e =>
    cases y with
    | nan => exact absurd rfl hy
    | infinite t =>
      refine ⟨_, rfl, ?_⟩
      cases t with
      | false => exact EReal.coe_lt_top _
      | true => exact EReal.bot_lt_coe _
    | finite t n f =>
      refine ⟨_, rfl, EReal.coe_strictMono.compares.mpr ?_⟩
      rw [← signedFraction_div s m e, ← signedFraction_div t n f]
      exact compareFractions_compares (signedFraction_snd_pos s m e) (signedFraction_snd_pos t n f)

end Binary64

end TableShell
