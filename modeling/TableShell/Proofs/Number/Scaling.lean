import Mathlib.Algebra.Order.Floor.Semifield
import TableShell.Proofs.Number.Rounding

/-!
# Powers of two and whole parts

A number of 53 bits is multiplied by a power of two without rounding, and whole numbers of 53 bits
are not rounded either. Hence such numbers are compared with powers of two as they are. The whole
part of a number loses less than one, and the coarser the grid of the number is, the less it loses.
-/

namespace TableShell.Binary64

variable {m n b : Nat} {e k : Int}

/-! ### Whole numbers -/

/-- A whole number of 53 bits is not rounded. -/
lemma exists_ofNat_eq (hn : n < 2 ^ 53) :
    ∃ (m : Nat) (e : Int), ofNat n = .finite false m e ∧ (m : ℝ) * 2 ^ e = n := by
  have hvalue : (n : ℝ) / (1 : Nat) = n * (2 : ℝ) ^ (0 : Int) := by simp
  obtain ⟨m, e, hfinite, hm⟩ :=
    exists_ofFraction_eq false one_pos hvalue hn (by decide) (by decide)
  exact ⟨m, e, hfinite, by simpa using hm⟩

/-- A natural number of at most 53 bits keeps its value. -/
lemma value_ofNat (hn : n < 2 ^ 53) : (ofNat n).value = ((n : ℝ) : EReal) := by
  obtain ⟨m, e, hfinite, hm⟩ := exists_ofNat_eq hn
  rw [hfinite, ← hm]
  rfl

/-- A natural number is rounded to a number. -/
lemma ofNat_ne_nan (n : Nat) : ofNat n ≠ .nan := by
  have hint := ofInt_ne_nan (n : Int)
  rw [ofInt, decide_eq_false (by omega)] at hint
  exact hint

/-- Rounding does not move a number to the other side of a power of two. -/
lemma compare?_two_pow {k : Nat} (hk : k < 53) :
    (ofNat b).compare? (ofNat (Nat.pow 2 k)) = some .lt ↔ b < 2 ^ k := by
  have hpower : Nat.pow 2 k < 2 ^ 53 := Nat.pow_lt_pow_right (by decide) hk
  obtain ⟨o, ho, hcompares⟩ := exists_compare?_compares (ofNat_ne_nan b)
    (ofNat_ne_nan (Nat.pow 2 k))
  rw [ho, Option.some.injEq, hcompares.eq_lt, value_ofNat hpower]
  rcases lt_or_ge b (2 ^ k) with hlt | hge
  · rw [value_ofNat (hlt.trans hpower), EReal.coe_lt_coe_iff, Nat.cast_lt]
    rfl
  · have hmono : (ofNat (Nat.pow 2 k)).value ≤ (ofNat b).value :=
      value_ofFraction_mono one_pos one_pos (Nat.mul_le_mul_right 1 hge)
    rw [value_ofNat hpower] at hmono
    exact ⟨fun h => absurd h hmono.not_gt, fun h => absurd h hge.not_gt⟩

/-! ### Scaled numbers -/

/-- A number with the value `n * 2 ^ j`, where `n` has 53 bits, is multiplied by a power of two
without rounding. -/
lemma exists_scale_eq {j : Int} (negative : Bool) (h : (m : ℝ) * 2 ^ e = n * 2 ^ j)
    (hn : n < 2 ^ 53) (hlow : -1074 ≤ j + k) (hhigh : j + k ≤ 970) :
    ∃ (m' : Nat) (f : Int), (finite negative m e).scale k = .finite negative m' f ∧
      (m' : ℝ) * 2 ^ f = m * 2 ^ (e + k) := by
  have hvalue := scaledFraction_div m (e + k)
  have hscaled : (m : ℝ) * 2 ^ (e + k) = n * 2 ^ (j + k) := by
    rw [zpow_add₀ two_ne_zero, zpow_add₀ two_ne_zero, ← mul_assoc, h, mul_assoc]
  rw [← hvalue]
  exact exists_ofFraction_eq negative (scaledFraction_snd_pos m (e + k)) (hvalue.trans hscaled) hn
    hlow hhigh

/-- The one mantissa of 54 bits is a power of two, so it counts as one of 53 bits. -/
lemma exists_mantissa_lt (hm : m ≤ 2 ^ 53) (e : Int) :
    ∃ (n : Nat) (j : Int), n < 2 ^ 53 ∧ e ≤ j ∧ j ≤ e + 1 ∧ (m : ℝ) * 2 ^ e = n * 2 ^ j := by
  rcases hm.lt_or_eq with hlt | rfl
  · exact ⟨m, e, hlt, le_rfl, by omega, rfl⟩
  · refine ⟨2 ^ 52, e + 1, by decide, by omega, le_rfl, ?_⟩
    rw [zpow_add₀ two_ne_zero, zpow_one]
    push_cast
    ring

/-- A whole number of 64 bits is rounded to one of 53 bits times a power of two. What has 53 bits
stays as it is; otherwise half a step of the grid below `2 ^ 64` can be lost. -/
lemma exists_ofNat_near (hn : n < 2 ^ 64) :
    ∃ (m : Nat) (e : Int) (q : Nat) (i : Int), ofNat n = .finite false m e ∧
      (m : ℝ) * 2 ^ e = q * 2 ^ i ∧ q < 2 ^ 53 ∧ -53 ≤ i ∧ i ≤ 12 ∧
      |(m : ℝ) * 2 ^ e - n| ≤ if n < 2 ^ 53 then 0 else 2 ^ 10 := by
  by_cases hsmall : n < 2 ^ 53
  · obtain ⟨m, e, hfinite, hm⟩ := exists_ofNat_eq hsmall
    refine ⟨m, e, n, 0, hfinite, by simp [hm], hsmall, by decide, by decide, ?_⟩
    rw [hm, sub_self, abs_zero, if_pos hsmall]
  · have hpos : 0 < n := (Nat.two_pow_pos 53).trans_le (not_lt.mp hsmall)
    have hwhole : (n : ℝ) / (1 : Nat) = n := by rw [Nat.cast_one, div_one]
    have hone : (1 : ℝ) ≤ n := by exact_mod_cast hpos
    have hlt : (n / (1 : Nat) : ℝ) < 2 ^ (64 : Int) := by
      rw [hwhole]
      exact_mod_cast hn
    obtain ⟨m, e, hfinite, hm, hgrid, hnear⟩ := exists_ofFraction_near false hpos one_pos
      (hlt.trans (zpow_lt_zpow_right₀ one_lt_two (by decide)))
    have hstep := hgrid.le_of_lt hlt
    have hupper := hgrid.lt
    rw [hwhole] at hupper hnear
    -- The grid around a whole number has no steps below `2 ^ (-52)`.
    have hlow : 0 < e + 53 := by
      by_contra hle
      have hsmall_grid : (2 : ℝ) ^ (e + 53) ≤ 1 :=
        zpow_le_one_of_nonpos₀ one_le_two (not_lt.mp hle)
      linarith
    obtain ⟨q, i, hq, hei, hie, hvalue⟩ := exists_mantissa_lt hm e
    refine ⟨m, e, q, i, hfinite, hvalue, hq, by omega, by omega, ?_⟩
    rw [if_neg hsmall]
    exact hnear.trans (zpow_le_zpow_right₀ one_le_two (by omega : e - 1 ≤ (10 : Nat)))

/-! ### Whole parts -/

/-- The whole part of a number that is not negative. -/
lemma truncate_finite (limit m : Nat) (e : Int) :
    (finite false m e).truncate limit = min ⌊(m : ℝ) * 2 ^ e⌋₊ limit := by
  have hfloor : ⌊(m : ℝ) * 2 ^ e⌋₊ = (scaledFraction m e).1 / (scaledFraction m e).2 := by
    rw [← scaledFraction_div m e, Nat.floor_div_eq_div]
  rw [hfloor]
  rfl

/-- The whole part of a number `m * 2 ^ e` loses less than one by a step of its grid. -/
lemma le_floor_add (m : Nat) (e : Int) :
    (m : ℝ) * 2 ^ e + 2 ^ min e 0 ≤ ⌊(m : ℝ) * 2 ^ e⌋₊ + 1 := by
  rcases le_or_gt 0 e with he | he
  · have hwhole : (m : ℝ) * 2 ^ e = (m * 2 ^ e.toNat : Nat) := by
      push_cast
      rw [← zpow_natCast, Int.toNat_of_nonneg he]
    rw [min_eq_right he, zpow_zero, hwhole, Nat.floor_natCast]
  · have hpos : 0 < 2 ^ (-e).toNat := Nat.two_pow_pos _
    have hquotient : (m : ℝ) * 2 ^ e = (m : ℝ) / (2 ^ (-e).toNat : Nat) := by
      push_cast
      rw [← zpow_natCast, Int.toNat_of_nonneg (by omega), zpow_neg, div_inv_eq_mul]
    have hstep : (2 : ℝ) ^ e = 1 / (2 ^ (-e).toNat : Nat) := by
      push_cast
      rw [← zpow_natCast, Int.toNat_of_nonneg (by omega), zpow_neg, one_div, inv_inv]
    have hrest : ((m % 2 ^ (-e).toNat : Nat) : ℝ) + 1 ≤ (2 ^ (-e).toNat : Nat) := by
      exact_mod_cast Nat.mod_lt m hpos
    rw [min_eq_left he.le, hquotient, hstep, Nat.floor_div_eq_div, cast_div_eq m hpos, add_assoc,
      ← add_div, add_le_add_iff_left, div_le_one (Nat.cast_pos.mpr hpos)]
    exact hrest

/-- A whole number of 53 bits times a power of two is its own whole part. -/
theorem truncate_scale_of_div_eq {num den k : Nat} (limit : Nat) (hden : 0 < den)
    (h : (num : ℝ) / den = n) (hn : n < 2 ^ 53) (hk : k ≤ 970) :
    ((ofFraction false num den).scale k).truncate limit = min (n * 2 ^ k) limit := by
  have hvalue : (num : ℝ) / den = n * 2 ^ (0 : Int) := by rw [h, zpow_zero, mul_one]
  obtain ⟨m, e, hfinite, hm⟩ :=
    exists_ofFraction_eq false hden hvalue hn (by decide) (by decide)
  obtain ⟨m', f, hscale, hscaled⟩ :=
    exists_scale_eq (k := k) false (hm.trans hvalue) hn (by omega) (by omega)
  have hwhole : (m : ℝ) * 2 ^ (e + k) = (n * 2 ^ k : Nat) := by
    rw [zpow_add₀ two_ne_zero, ← mul_assoc, hm, h, zpow_natCast]
    push_cast
    rfl
  rw [hfinite, hscale, truncate_finite, hscaled, hwhole, Nat.floor_natCast]

/-- A natural number of at most 53 bits is scaled exactly, and truncated where it is too large. -/
lemma truncate_scale_ofNat {k : Nat} (limit : Nat) (hn : n < 2 ^ 53) (hk : k ≤ 970) :
    ((ofNat n).scale k).truncate limit = min (n * 2 ^ k) limit :=
  truncate_scale_of_div_eq limit one_pos (by rw [Nat.cast_one, div_one]) hn hk

/-- The whole part of a number, cut off at a limit, is no farther from what lies below the limit
than the whole part that is not cut off. -/
lemma abs_min_sub_le {f limit : Nat} {t : ℝ} (ht : t ≤ limit) :
    |((min f limit : Nat) : ℝ) - t| ≤ |(f : ℝ) - t| := by
  rcases le_total f limit with hle | hle
  · rw [min_eq_left hle]
  · have hle' : (limit : ℝ) ≤ f := Nat.cast_le.mpr hle
    rw [min_eq_right hle, abs_of_nonneg (sub_nonneg.mpr ht),
      abs_of_nonneg (sub_nonneg.mpr (ht.trans hle'))]
    linarith

/-- The whole part of a number of the grid near `x` is off from `x` by half a step of the grid, or
by at most one where the grid has steps below two. -/
lemma abs_floor_sub_le {x : ℝ} {s j : Int} (hnear : |(m : ℝ) * 2 ^ s - x| ≤ 2 ^ (s - 1))
    (hs : s - 1 ≤ j) (hj : 0 ≤ j) : |(⌊(m : ℝ) * 2 ^ s⌋₊ : ℝ) - x| ≤ 2 ^ j := by
  have hfloor : (⌊(m : ℝ) * 2 ^ s⌋₊ : ℝ) ≤ m * 2 ^ s := Nat.floor_le (by positivity)
  have hloss := le_floor_add m s
  have hhalf : (2 : ℝ) ^ (s - 1) ≤ 2 ^ j := zpow_le_zpow_right₀ one_le_two hs
  have hone : (1 : ℝ) ≤ 2 ^ j := one_le_zpow₀ one_le_two hj
  have hstep : (2 : ℝ) ^ (s - 1) + 1 ≤ 2 ^ min s 0 + 2 ^ j := by
    rcases le_or_gt s 0 with hle | hgt
    · have hless : (2 : ℝ) ^ (s - 1) ≤ 2 ^ s := zpow_le_zpow_right₀ one_le_two (by omega)
      rw [min_eq_left hle]
      linarith
    · rw [min_eq_right hgt.le, zpow_zero]
      linarith
  rw [abs_le] at hnear ⊢
  constructor <;> linarith

/-- A fraction is rounded and scaled to a number below `2 ^ j`, and the whole part of it is taken.
To the distance of the scaled fraction from a number `t` this adds half a step of the grid below `2
^ j`, which has steps of at least two. -/
theorem abs_truncate_scale_sub_le {num den k limit : Nat} {j : Int} {t : ℝ} (hden : 0 < den)
    (hlt : (num / den : ℝ) < 2 ^ (j - k)) (hj : 54 ≤ j) (hj' : j ≤ 970) (hk : k ≤ 970)
    (ht : t ≤ limit) :
    |(((ofFraction false num den).scale k).truncate limit : ℝ) - t| ≤
      |num / den * 2 ^ k - t| + 2 ^ (j - 54) := by
  rcases Nat.eq_zero_or_pos num with rfl | hnum
  · have hzero : ((ofFraction false 0 den).scale k).truncate limit = 0 := by
      simp [ofFraction, scale, scaledFraction, truncate]
    rw [hzero, Nat.cast_zero, zero_div, zero_mul]
    exact le_add_of_nonneg_right (by positivity)
  have hlt' : (num / den : ℝ) < 2 ^ (1023 : Int) :=
    hlt.trans (zpow_lt_zpow_right₀ one_lt_two (by omega))
  obtain ⟨m, e, hfinite, hm, hgrid, hnear⟩ := exists_ofFraction_near false hnum hden hlt'
  have hlow := hgrid.lowest_le
  have hstep := hgrid.le_of_lt hlt
  obtain ⟨n, i, hn, hei, hie, hmantissa⟩ := exists_mantissa_lt hm e
  obtain ⟨m', f, hscale, hvalue⟩ :=
    exists_scale_eq (k := k) false hmantissa hn (by omega) (by omega)
  have hscaled : |(m : ℝ) * 2 ^ (e + k) - num / den * 2 ^ k| ≤ 2 ^ (e + k - 1) := by
    have hpower : (2 : ℝ) ^ (e + k) = 2 ^ e * 2 ^ k := by
      rw [zpow_add₀ two_ne_zero, zpow_natCast]
    rw [hpower, ← mul_assoc, ← sub_mul, abs_mul, abs_of_pos (by positivity : (0 : ℝ) < 2 ^ k)]
    calc |(m : ℝ) * 2 ^ e - num / den| * 2 ^ k
      _ ≤ 2 ^ (e - 1) * 2 ^ k := by gcongr
      _ = (2 : ℝ) ^ (e + k - 1) := by
        rw [← zpow_natCast, ← zpow_add₀ two_ne_zero]
        congr 1
        ring
  have hwhole := abs_floor_sub_le (j := j - 54) hscaled (by omega) (by omega)
  rw [hfinite, hscale, truncate_finite, hvalue]
  calc |((min ⌊(m : ℝ) * 2 ^ (e + k)⌋₊ limit : Nat) : ℝ) - t|
    _ ≤ |(⌊(m : ℝ) * 2 ^ (e + k)⌋₊ : ℝ) - t| := abs_min_sub_le ht
    _ ≤ |(⌊(m : ℝ) * 2 ^ (e + k)⌋₊ : ℝ) - num / den * 2 ^ k| + |num / den * 2 ^ k - t| :=
      abs_sub_le _ _ _
    _ ≤ |num / den * 2 ^ k - t| + 2 ^ (j - 54) := by
      rw [add_comm]
      exact add_le_add_right hwhole _

/-! ### Order -/

/-- A number that is not negative. -/
inductive Unsigned : Binary64 → Prop where
  | infinite : Unsigned (.infinite false)
  | finite (m : Nat) (e : Int) : Unsigned (.finite false m e)

/-- A fraction without a sign is rounded to a number without one. -/
lemma unsigned_ofFraction (num den : Nat) : (ofFraction false num den).Unsigned := by
  rcases Nat.eq_zero_or_pos num with rfl | hnum
  · exact .finite 0 0
  · rw [ofFraction_eq false hnum]
    split
    · exact .infinite
    · exact .finite _ _

section Unsigned

variable {x y : Binary64}

/-- Scaling sets no sign. -/
lemma Unsigned.scale (hx : x.Unsigned) (k : Int) : (x.scale k).Unsigned := by
  cases hx with
  | infinite => exact .infinite
  | finite m e => exact unsigned_ofFraction _ _

/-- Multiplied by a power of two, a larger number is not smaller. -/
lemma Unsigned.value_scale_mono (hx : x.Unsigned) (hy : y.Unsigned) (h : x.value ≤ y.value)
    (k : Int) : (x.scale k).value ≤ (y.scale k).value := by
  cases hy with
  | infinite => exact le_top
  | finite m' f =>
    cases hx with
    | infinite => exact absurd h (EReal.coe_lt_top _).not_ge
    | finite m e =>
      have hle : (m : ℝ) * 2 ^ e ≤ m' * 2 ^ f := EReal.coe_le_coe_iff.mp h
      have hden := scaledFraction_snd_pos m (e + k)
      have hden' := scaledFraction_snd_pos m' (f + k)
      have hscaled : ((scaledFraction m (e + k)).1 : ℝ) / (scaledFraction m (e + k)).2 ≤
          (scaledFraction m' (f + k)).1 / (scaledFraction m' (f + k)).2 := by
        rw [scaledFraction_div, scaledFraction_div, zpow_add₀ two_ne_zero, zpow_add₀ two_ne_zero,
          ← mul_assoc, ← mul_assoc]
        gcongr
      rw [div_le_div_iff₀ (Nat.cast_pos.mpr hden) (Nat.cast_pos.mpr hden')] at hscaled
      exact value_ofFraction_mono hden hden' (by exact_mod_cast hscaled)

/-- A truncated number is at most the limit. -/
lemma truncate_le (limit : Nat) (x : Binary64) : x.truncate limit ≤ limit := by
  unfold truncate
  split
  · exact Nat.zero_le limit
  · split
    · exact Nat.zero_le limit
    · exact le_rfl
  · split
    · exact Nat.zero_le limit
    · exact min_le_right _ _

/-- A larger number has no smaller whole part. -/
lemma Unsigned.truncate_mono (hx : x.Unsigned) (hy : y.Unsigned) (h : x.value ≤ y.value)
    (limit : Nat) : x.truncate limit ≤ y.truncate limit := by
  cases hy with
  | infinite => exact truncate_le limit x
  | finite m' f =>
    cases hx with
    | infinite => exact absurd h (EReal.coe_lt_top _).not_ge
    | finite m e =>
      have hle : (m : ℝ) * 2 ^ e ≤ m' * 2 ^ f := EReal.coe_le_coe_iff.mp h
      rw [truncate_finite, truncate_finite]
      exact min_le_min_right limit (Nat.floor_le_floor hle)

end Unsigned

end TableShell.Binary64
