import Mathlib.Data.List.TakeWhile
import Mathlib.Tactic.Common
import TableShell.Number.Reading
import TableShell.Proofs.Number.Decimal
import TableShell.Proofs.Text.LetterCase

/-!
# Reading decimal numbers

A run of digits and points is a number exactly if it holds a digit and at most one point: there may
be no digits in front of the point or none behind it, but a point alone is no number. What is read
is the number nearest to the decimal value.
-/

namespace TableShell

/-! ### Digits -/

/-- A digit has no other case. -/
lemma toLower_of_isDigit {c : Char} (h : isDigit c = true) : c.toLower = c := by
  obtain ⟨-, hhigh⟩ := isDigit_iff.mp h
  rw [← Char.toNat_inj, Text.toNat_toLower, if_neg (by omega)]

/-- A run of characters that pass a test is cut off in front of one that does not. -/
lemma cut_run_append {p : Char → Bool} {run rest : List Char} (hrun : ∀ c ∈ run, p c = true)
    (hrest : ∀ c ∈ rest.head?, p c = false) :
    (run ++ rest).takeWhile p = run ∧ (run ++ rest).dropWhile p = rest := by
  rw [List.takeWhile_append_of_pos hrun, List.dropWhile_append_of_pos hrun]
  cases rest with
  | nil => simp
  | cons c rest =>
    have hc : ¬ p c = true := Bool.eq_false_iff.mp (hrest c rfl)
    rw [List.takeWhile_cons_of_neg hc, List.dropWhile_cons_of_neg hc, List.append_nil]
    exact ⟨rfl, rfl⟩

namespace Binary64

variable {cs digits whole fraction : List Char}

/-! ### Decimal values -/

/-- A decimal value whose power of ten is not out of range is rounded once. -/
lemma ofDecimal_eq (negative : Bool) (digits count : Nat) {exponent : Int}
    (hlow : -330 ≤ exponent) (hhigh : exponent ≤ 310) :
    ofDecimal negative digits count exponent =
      ofFraction negative (digits * Nat.pow 10 exponent.toNat)
        (Nat.pow 10 (-exponent).toNat) := by
  unfold ofDecimal
  split
  · next hzero =>
    rw [eq_of_beq hzero, Nat.zero_mul]
    rfl
  · rw [if_neg (by omega), if_neg (by omega)]

/-- A run of digits is read as the number nearest to its value. -/
lemma readDecimal?_digits (negative : Bool) (hne : digits ≠ [])
    (hdigits : ∀ c ∈ digits, isDigit c = true) :
    readDecimal? negative digits =
      some (ofDecimal negative (valueOfDigits digits) digits.length 0) := by
  have htake : digits.takeWhile isDigit = digits := List.takeWhile_eq_self_iff.mpr hdigits
  have hdrop : digits.dropWhile isDigit = [] := List.dropWhile_eq_nil_iff.mpr hdigits
  unfold readDecimal?
  rw [htake, hdrop]
  simp [hne]

/-- Digits are cut off in front of a point. -/
lemma cut_digits_point (hdigits : ∀ c ∈ digits, isDigit c = true) (more : List Char) :
    (digits ++ '.' :: more).takeWhile isDigit = digits ∧
      (digits ++ '.' :: more).dropWhile isDigit = '.' :: more := by
  refine cut_run_append hdigits ?_
  rintro c ⟨⟩
  decide

/-- Digits in front of and behind a point are read as the number nearest to their value. -/
lemma readDecimal?_point (negative : Bool) (hne : whole ++ fraction ≠ [])
    (hwhole : ∀ c ∈ whole, isDigit c = true) (hfraction : ∀ c ∈ fraction, isDigit c = true) :
    readDecimal? negative (whole ++ '.' :: fraction) =
      some (ofDecimal negative (valueOfDigits (whole ++ fraction)) (whole ++ fraction).length
        (-fraction.length)) := by
  obtain ⟨htake, hdrop⟩ := cut_digits_point hwhole fraction
  have htake' : fraction.takeWhile isDigit = fraction := List.takeWhile_eq_self_iff.mpr hfraction
  have hdrop' : fraction.dropWhile isDigit = [] := List.dropWhile_eq_nil_iff.mpr hfraction
  have hsome : ¬ (whole ++ fraction).isEmpty = true := by rwa [List.isEmpty_iff]
  unfold readDecimal?
  rw [htake, hdrop]
  simp only [htake', hdrop', if_neg hsome, Option.map_some, Int.zero_sub]

/-- With a second point a text is no number. -/
lemma readDecimal?_second_point (negative : Bool) (more : List Char)
    (hwhole : ∀ c ∈ whole, isDigit c = true) (hfraction : ∀ c ∈ fraction, isDigit c = true) :
    readDecimal? negative (whole ++ '.' :: (fraction ++ '.' :: more)) = none := by
  obtain ⟨htake, hdrop⟩ := cut_digits_point hwhole (fraction ++ '.' :: more)
  obtain ⟨htake', hdrop'⟩ := cut_digits_point hfraction more
  unfold readDecimal?
  rw [htake, hdrop]
  simp [htake', hdrop']

/-! ### Runs of digits and points -/

/-- A text of digits and points, without a sign and an exponent. -/
def IsDecimal (cs : List Char) : Prop :=
  ∀ c ∈ cs, isDigit c = true ∨ c = '.'

/-- Digits alone make such a text. -/
lemma isDecimal_digits (h : ∀ c ∈ digits, isDigit c = true) : IsDecimal digits :=
  fun c hc => .inl (h c hc)

/-- So do digits with a point among them. -/
lemma isDecimal_point (hwhole : ∀ c ∈ whole, isDigit c = true)
    (hfraction : ∀ c ∈ fraction, isDigit c = true) : IsDecimal (whole ++ '.' :: fraction) := by
  intro c hc
  rw [List.mem_append, List.mem_cons] at hc
  rcases hc with hc | rfl | hc
  · exact .inl (hwhole c hc)
  · exact .inr rfl
  · exact .inl (hfraction c hc)

/-- A run of digits and points begins with digits, behind which it ends or goes on with a point. -/
lemma IsDecimal.exists_digits (h : IsDecimal cs) :
    ∃ digits rest, cs = digits ++ rest ∧ (∀ c ∈ digits, isDigit c = true) ∧
      (rest = [] ∨ ∃ more, rest = '.' :: more ∧ IsDecimal more) := by
  refine ⟨cs.takeWhile isDigit, cs.dropWhile isDigit, List.takeWhile_append_dropWhile.symm,
    fun c hc => List.mem_takeWhile_imp hc, ?_⟩
  have hrest : IsDecimal (cs.dropWhile isDigit) := by
    intro c hc
    exact h c ((List.dropWhile_suffix isDigit).subset hc)
  have hfirst := List.head?_dropWhile_not isDigit cs
  cases hcases : cs.dropWhile isDigit with
  | nil => exact .inl rfl
  | cons c more =>
    rw [hcases] at hrest hfirst
    obtain ⟨hdigit | rfl, hmore⟩ := List.forall_mem_cons.mp hrest
    · exact absurd hdigit (Bool.eq_false_iff.mp hfirst)
    · exact .inr ⟨more, rfl, hmore⟩

/-- A run of digits and points has no letters and no sign, so it is read as a decimal number. -/
lemma readChars?_of_isDecimal (h : IsDecimal cs) : readChars? cs = readDecimal? false cs := by
  have hsmall : cs.map Char.toLower = cs := by
    have hself (c : Char) (hc : c ∈ cs) : c.toLower = c := by
      rcases h c hc with hdigit | rfl
      · exact toLower_of_isDigit hdigit
      · decide
    rw [List.map_congr_left hself, List.map_id']
  have hname (name : List Char) (hname : 'n' ∈ name) : ¬ (cs.map Char.toLower == name) = true := by
    rw [hsmall, beq_iff_eq]
    rintro rfl
    exact absurd (h 'n' hname) (by decide)
  unfold readChars?
  split
  · exact absurd (h '-' List.mem_cons_self) (by decide)
  · exact absurd (h '+' List.mem_cons_self) (by decide)
  · unfold readUnsigned?
    simp [hname]

/-! ### What is a number -/

/-- There is no point among digits. -/
lemma count_point_of_digits (h : ∀ c ∈ digits, isDigit c = true) : digits.count '.' = 0 := by
  rw [List.count_eq_zero]
  intro hpoint
  exact absurd (h '.' hpoint) (by decide)

/-- Among digits there is a digit unless the text is empty. -/
lemma exists_digit_iff (h : ∀ c ∈ digits, isDigit c = true) :
    (∃ c ∈ digits, isDigit c = true) ↔ digits ≠ [] := by
  constructor
  · rintro ⟨c, hc, -⟩
    exact List.ne_nil_of_mem hc
  · intro hne
    obtain ⟨c, hc⟩ := List.exists_mem_of_ne_nil digits hne
    exact ⟨c, hc, h c hc⟩

/-- A run of digits and points is read exactly if it holds a digit and at most one point. -/
theorem isSome_readDecimal?_iff (negative : Bool) (h : IsDecimal cs) :
    (readDecimal? negative cs).isSome = true ↔
      (∃ c ∈ cs, isDigit c = true) ∧ cs.count '.' ≤ 1 := by
  -- The reader looks for digits twice, so a run is cut at its first two points.
  obtain ⟨whole, rest, rfl, hwhole, rfl | ⟨more, rfl, hmore⟩⟩ := h.exists_digits
  · rw [List.append_nil, count_point_of_digits hwhole, exists_digit_iff hwhole]
    by_cases hne : whole = []
    · simp [hne, readDecimal?]
    · rw [readDecimal?_digits negative hne hwhole]
      simp [hne]
  · obtain ⟨fraction, rest, rfl, hfraction, rfl | ⟨more, rfl, -⟩⟩ := hmore.exists_digits
    · have hcount : (whole ++ '.' :: fraction).count '.' = 1 := by
        rw [List.count_append, List.count_cons_self, count_point_of_digits hwhole,
          count_point_of_digits hfraction]
      have hdigit :
          (∃ c ∈ whole ++ '.' :: fraction, isDigit c = true) ↔ whole ++ fraction ≠ [] := by
        have hpoint : isDigit '.' = false := by decide
        rw [← exists_digit_iff (List.forall_mem_append.mpr ⟨hwhole, hfraction⟩)]
        simp [or_and_right, exists_or, hpoint]
      rw [List.append_nil, hcount, hdigit]
      by_cases hne : whole ++ fraction = []
      · obtain ⟨rfl, rfl⟩ := List.append_eq_nil_iff.mp hne
        have hnone : readDecimal? negative ['.'] = none := rfl
        simp [hnone]
      · rw [readDecimal?_point negative hne hwhole hfraction]
        simp [hne]
    · have hcount : 2 ≤ (whole ++ '.' :: (fraction ++ '.' :: more)).count '.' := by
        simp only [List.count_append, List.count_cons_self]
        omega
      rw [readDecimal?_second_point negative more hwhole hfraction]
      constructor
      · intro hsome
        cases hsome
      · rintro ⟨-, hle⟩
        omega

/-! ### Whole numbers -/

/-- A run of digits is read as the number nearest to the number that it writes. -/
lemma readChars?_digits (hne : digits ≠ []) (hdigits : ∀ c ∈ digits, isDigit c = true) :
    readChars? digits = some (ofNat (Nat.ofDigitChars 10 digits 0)) := by
  rw [readChars?_of_isDecimal (isDecimal_digits hdigits), readDecimal?_digits false hne hdigits,
    ofDecimal_eq false _ _ (by decide) (by decide), valueOfDigits_eq]
  simp [ofNat]

/-- A whole number is read as the number nearest to it. -/
lemma readChars?_repr (n : Nat) : readChars? n.repr.toList = some (ofNat n) := by
  rw [readChars?_digits (repr_ne_nil n) (List.all_eq_true.mp (all_isDigit_repr n)),
    ← valueOfDigits_eq, valueOfDigits_repr]

end Binary64

end TableShell
