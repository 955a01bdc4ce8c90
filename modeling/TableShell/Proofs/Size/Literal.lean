import TableShell.Proofs.Number.Reading
import TableShell.Proofs.Number.Scaling
import TableShell.Proofs.Text.Trimming
import TableShell.Size

/-!
# Size literals

Every text has the parts of a size: a number, which is as long a run of digits and points as there
is, and a unit, with blanks in front of them, between them and behind them. A text is read by its
number and its unit alone. It is a size exactly if its number holds a digit and at most one point,
and a whole number of 53 bits counts the bytes of its unit, up to the largest count.
-/

namespace TableShell.Size

open Binary64

/-! ### Units -/

/-- The bytes of the unit that a letter stands for, in either case. -/
def bytesOfLetter (c : Char) : Nat :=
  if c = 'k' ∨ c = 'K' then 2 ^ 10
  else if c = 'm' ∨ c = 'M' then 2 ^ 20
  else if c = 'g' ∨ c = 'G' then 2 ^ 30
  else 1

/-- The bytes of a unit. The larger units are named by a letter, and a `b` for bytes may stand
behind it; all else counts single bytes. -/
def bytesOfUnit : List Char → Nat
  | [c] => bytesOfLetter c
  | [c, d] => if d = 'b' ∨ d = 'B' then bytesOfLetter c else 1
  | _ => 1

/-- The exponent of a unit of one letter gives the bytes of that letter. -/
lemma two_pow_unitExponent_letter (c : Char) : 2 ^ unitExponent [c] = bytesOfLetter c := by
  have hk : c.toLower = 'k' ↔ c = 'k' ∨ c = 'K' :=
    Text.toLower_eq_iff (by decide) (by decide) rfl
  have hm : c.toLower = 'm' ↔ c = 'm' ∨ c = 'M' :=
    Text.toLower_eq_iff (by decide) (by decide) rfl
  have hg : c.toLower = 'g' ↔ c = 'g' ∨ c = 'G' :=
    Text.toLower_eq_iff (by decide) (by decide) rfl
  simp only [unitExponent, bytesOfLetter, List.map_cons, List.map_nil, Bool.or_eq_true, beq_iff_eq,
    List.cons.injEq, reduceCtorEq, and_false, and_true, false_or, hk, hm, hg]
  split_ifs <;> rfl

/-- A `b` behind the letter of a unit makes no difference. -/
lemma unitExponent_pair (c d : Char) :
    unitExponent [c, d] = if d = 'b' ∨ d = 'B' then unitExponent [c] else 0 := by
  have hb : d.toLower = 'b' ↔ d = 'b' ∨ d = 'B' :=
    Text.toLower_eq_iff (by decide) (by decide) rfl
  simp only [← hb]
  by_cases h : d.toLower = 'b' <;> simp [unitExponent, h]

/-- No unit is larger than a gigabyte. -/
lemma unitExponent_le (unit : List Char) : unitExponent unit ≤ 30 := by
  unfold unitExponent
  dsimp only
  split_ifs <;> decide

/-- The exponent of a unit gives its bytes. -/
lemma two_pow_unitExponent (unit : List Char) : 2 ^ unitExponent unit = bytesOfUnit unit := by
  match unit with
  | [] => rfl
  | [c] => exact two_pow_unitExponent_letter c
  | [c, d] =>
    rw [unitExponent_pair, bytesOfUnit]
    split_ifs
    · exact two_pow_unitExponent_letter c
    · rfl
  | c :: d :: e :: rest => simp [unitExponent, bytesOfUnit]

/-! ### The parts of a size -/

/-- The characters of a number are digits and points. -/
lemma isNumberChar_iff {c : Char} : isNumberChar c = true ↔ isDigit c = true ∨ c = '.' := by
  rw [isNumberChar, Bool.or_eq_true, beq_iff_eq]

/-- A number has no blanks. -/
lemma isBlank_of_isNumberChar {c : Char} (h : isNumberChar c = true) : Text.isBlank c = false := by
  rcases isNumberChar_iff.mp h with hdigit | rfl
  · apply isBlank_of_isNumeral
    rw [isNumeral, hdigit, Bool.true_or]
  · decide

/-- The parts of a text that is read as a size: a number, a unit, and the blanks in front of them,
between them and behind them. -/
structure Parts (text : List Char) where
  before : List Char
  number : List Char
  gap : List Char
  unit : List Char
  after : List Char
  text_eq : text = before ++ (number ++ (gap ++ unit)) ++ after
  before_blank : ∀ c ∈ before, Text.isBlank c = true
  gap_blank : ∀ c ∈ gap, Text.isBlank c = true
  after_blank : ∀ c ∈ after, Text.isBlank c = true
  number_isDecimal : IsDecimal number
  /-- The number is the longest run there is: no digit and no point stands behind it. -/
  number_ends : ∀ c ∈ (gap ++ unit).head?, ¬ (isDigit c = true ∨ c = '.')
  /-- Blanks that no number stands in front of are those in front of the text. -/
  gap_eq_nil : number = [] → gap = []
  unit_trimmed : Text.trimChars unit = unit

/-- Every text has the parts of a size. -/
lemma nonempty_parts (text : List Char) : Nonempty (Parts text) := by
  obtain ⟨before, after, hbefore, hafter, htext⟩ := Text.exists_eq_trimChars text
  have hfirst (c : Char) : c ∈ (Text.trimChars text).head? → Text.isBlank c = false :=
    Text.isBlank_of_mem_head?_trimChars
  generalize Text.trimChars text = cs at htext hfirst
  obtain ⟨gap, behind, hgap, hbehind, hrest⟩ :=
    Text.exists_eq_trimChars (cs.dropWhile isNumberChar)
  have hcs : cs = cs.takeWhile isNumberChar ++ cs.dropWhile isNumberChar :=
    List.takeWhile_append_dropWhile.symm
  refine ⟨before, cs.takeWhile isNumberChar, gap, Text.trimChars (cs.dropWhile isNumberChar),
    behind ++ after, ?_, hbefore, hgap, List.forall_mem_append.mpr ⟨hbehind, hafter⟩, ?_, ?_, ?_,
    Text.trimChars_trimChars _⟩
  · rw [htext]
    nth_rewrite 1 [hcs]
    nth_rewrite 1 [hrest]
    simp only [List.append_assoc]
  · intro c hc
    exact isNumberChar_iff.mp (List.mem_takeWhile_imp hc)
  · intro c hc hnumber
    have hnot := List.head?_dropWhile_not isNumberChar cs
    have hhead : (cs.dropWhile isNumberChar).head? = some c := by
      rw [hrest, List.head?_append, Option.mem_def.mp hc, Option.some_or]
    rw [hhead] at hnot
    exact Bool.eq_false_iff.mp hnot (isNumberChar_iff.mpr hnumber)
  · intro hnumber
    rw [hnumber, List.nil_append] at hcs
    -- Then the trimmed text begins with the gap, and it does not begin with a blank.
    rw [hcs, hrest, List.append_assoc] at hfirst
    exact Text.eq_nil_of_blanks hgap hfirst

section Parts

variable {text : List Char}

/-- The number of a size consists of such characters. -/
lemma Parts.isNumberChar_number (p : Parts text) : ∀ c ∈ p.number, isNumberChar c = true :=
  fun c hc => isNumberChar_iff.mpr (p.number_isDecimal c hc)

/-- What follows the blanks in front does not begin with one. -/
lemma Parts.isBlank_of_mem_head? (p : Parts text) {c : Char}
    (h : c ∈ (p.number ++ (p.gap ++ p.unit)).head?) : Text.isBlank c = false := by
  by_cases hnumber : p.number = []
  · rw [hnumber, p.gap_eq_nil hnumber, List.nil_append, List.nil_append, ← p.unit_trimmed] at h
    exact Text.isBlank_of_mem_head?_trimChars h
  · rw [List.head?_append_of_ne_nil _ hnumber] at h
    exact isBlank_of_isNumberChar (p.isNumberChar_number c (List.mem_of_mem_head? h))

/-- Behind the blanks in front of it, a text begins with its number, and what follows the number is
its unit, blanks aside. -/
lemma Parts.exists_trimChars_eq (p : Parts text) :
    ∃ rest, Text.trimChars text = p.number ++ rest ∧
      (∀ c ∈ rest.head?, isNumberChar c = false) ∧ Text.trimChars rest = p.unit := by
  have htext : Text.trimChars text = Text.trimChars (p.number ++ (p.gap ++ p.unit)) := by
    refine (congrArg Text.trimChars p.text_eq).trans ?_
    rw [Text.trimChars_append_blanks _ p.after_blank, Text.trimChars_blanks_append _ p.before_blank]
  by_cases hunit : p.unit = []
  · -- Without a unit, the blanks behind the number are at the end of the text.
    refine ⟨[], ?_, by simp, by rw [hunit]; rfl⟩
    rw [htext, hunit, List.append_nil, Text.trimChars_append_blanks _ p.gap_blank, List.append_nil]
    exact Text.trimChars_eq_self fun c hc => isBlank_of_isNumberChar (p.isNumberChar_number c hc)
  · refine ⟨p.gap ++ p.unit, ?_, ?_, ?_⟩
    · rw [htext]
      refine Text.trimChars_eq_self_of_ends (fun c hc => p.isBlank_of_mem_head? hc) ?_
      intro c hc
      rw [List.getLast?_append_of_ne_nil _ (List.append_ne_nil_of_right_ne_nil _ hunit),
        List.getLast?_append_of_ne_nil _ hunit, ← p.unit_trimmed] at hc
      exact Text.isBlank_of_mem_getLast?_trimChars hc
    · intro c hc
      exact Bool.eq_false_iff.mpr (mt isNumberChar_iff.mp (p.number_ends c hc))
    · rw [Text.trimChars_blanks_append _ p.gap_blank, p.unit_trimmed]

end Parts

/-- A text is read by its number and its unit. -/
lemma Parts.parse?_eq {text : String} (p : Parts text.toList) :
    parse? text =
      (readChars? p.number).map fun x => (x.scale (unitExponent p.unit)).truncate maxWord := by
  obtain ⟨rest, htrim, hends, hunit⟩ := p.exists_trimChars_eq
  obtain ⟨htake, hdrop⟩ := cut_run_append p.isNumberChar_number hends
  unfold parse?
  rw [htrim]
  dsimp only
  rw [htake, hdrop, hunit]

/-- A text is a size exactly if the run of digits and points that it begins with holds a digit and
at most one point. A whole number of 53 bits counts the bytes of its unit, up to the largest count.
In both cases blanks around the number, the unit and the whole text make no difference. -/
theorem parse?_parts (text : String) :
    Nonempty (Parts text.toList) ∧ ∀ p : Parts text.toList,
      ((parse? text).isSome = true ↔
        (∃ c ∈ p.number, isDigit c = true) ∧ p.number.count '.' ≤ 1) ∧
      ∀ n < 2 ^ 53, p.number ≠ [] → '.' ∉ p.number → Nat.ofDigitChars 10 p.number 0 = n →
        parse? text = some (min (n * bytesOfUnit p.unit) (2 ^ 64 - 1)) := by
  refine ⟨nonempty_parts text.toList, ?_⟩
  intro p
  rw [p.parse?_eq]
  constructor
  · rw [Option.isSome_map, readChars?_of_isDecimal p.number_isDecimal,
      isSome_readDecimal?_iff false p.number_isDecimal]
  · intro n hn hne hpoint hvalue
    have hdigits (c : Char) (hc : c ∈ p.number) : isDigit c = true := by
      refine (p.number_isDecimal c hc).resolve_right ?_
      rintro rfl
      exact hpoint hc
    have hunit := unitExponent_le p.unit
    rw [readChars?_digits hne hdigits, hvalue, Option.map_some,
      truncate_scale_ofNat maxWord hn (by omega), two_pow_unitExponent]
    rfl

/-- A size with a tab in front of it, leading zeros, mixed case and a line feed behind it. -/
def paddedSize : Parts "\t007  Kb\n".toList where
  before := ['\t']
  number := ['0', '0', '7']
  gap := [' ', ' ']
  unit := ['K', 'b']
  after := ['\n']
  text_eq := by decide
  before_blank := List.all_eq_true.mp (by decide)
  gap_blank := List.all_eq_true.mp (by decide)
  after_blank := List.all_eq_true.mp (by decide)
  number_isDecimal := isDecimal_digits (List.all_eq_true.mp (by decide))
  number_ends := by
    rintro c ⟨⟩
    decide
  gap_eq_nil := by decide
  unit_trimmed := by decide

/-- In particular blanks, leading zeros and capitals make no difference. -/
theorem parse?_parts_paddedSize :
    (7 < 2 ^ 53 ∧ paddedSize.number ≠ [] ∧ '.' ∉ paddedSize.number ∧
        Nat.ofDigitChars 10 paddedSize.number 0 = 7) ∧
      parse? "\t007  Kb\n" = some 7168 :=
  ⟨by decide, ((parse?_parts "\t007  Kb\n").2 paddedSize).2 7 (by decide) (by decide) (by decide)
    (by decide)⟩

end TableShell.Size
