import Mathlib.Tactic.Common
import TableShell.Number.Integer
import TableShell.Text.Blank

/-!
# Numbers written in decimal

A number that is written in decimal is read back, by the readers of unsigned and of signed 64-bit
numbers, if it is in their range. What is written has no blanks and no bars.
-/

namespace TableShell

/-- The digits are the decimal digits of the library. -/
lemma isDigit_eq (c : Char) : isDigit c = c.isDigit := by
  simp only [isDigit, Char.isDigit, Char.le_def]

/-- The digits are the characters from `0` to `9`. -/
lemma isDigit_iff {c : Char} : isDigit c = true ↔ 0x30 ≤ c.toNat ∧ c.toNat ≤ 0x39 := by
  simp only [isDigit, Bool.and_eq_true, decide_eq_true_eq, Char.le_def, UInt32.le_iff_toNat_le]
  exact Iff.rfl

/-- A character of a number: a digit or the sign of a negative number. -/
def isNumeral (c : Char) : Bool :=
  isDigit c || c == '-'

/-- Numbers have no blanks. -/
lemma isBlank_of_isNumeral {c : Char} (h : isNumeral c = true) : Text.isBlank c = false := by
  rw [isNumeral, Bool.or_eq_true, isDigit_iff, beq_iff_eq] at h
  rcases h with ⟨hlow, hhigh⟩ | rfl
  · simp only [Text.isBlank, Bool.or_eq_false_iff, Bool.and_eq_false_iff, beq_eq_false_iff_ne,
      decide_eq_false_iff_not]
    omega
  · decide

/-- A number holds no bar. -/
lemma ne_bar_of_isNumeral {c : Char} (h : isNumeral c = true) : c ≠ '|' := by
  rintro rfl
  exact absurd h (by decide)

/-! ### Unsigned numbers -/

/-- A natural number is written in digits. -/
lemma all_isDigit_repr (n : Nat) : n.repr.toList.all isDigit = true := by
  rw [List.all_eq_true, Nat.toList_repr]
  intro c hc
  rw [isDigit_eq]
  exact Nat.isDigit_of_mem_toDigits (by decide) (by decide) hc

/-- A natural number is written with at least one digit. -/
lemma repr_ne_nil (n : Nat) : n.repr.toList ≠ [] := by
  rw [Nat.toList_repr]
  exact Nat.toDigits_ne_nil

/-- The value of digits is the one that the library gives them. -/
lemma valueOfDigits_eq (cs : List Char) : valueOfDigits cs = Nat.ofDigitChars 10 cs 0 := rfl

/-- The digits of a number have its value. -/
lemma valueOfDigits_repr (n : Nat) : valueOfDigits n.repr.toList = n := by
  rw [valueOfDigits_eq, Nat.toList_repr, Nat.ofDigitChars_toDigits (by decide) (by decide)]

/-- A natural number is read back from its digits. -/
lemma readDigits?_repr (n : Nat) : readDigits? n.repr.toList = some n := by
  have hdigits : (!n.repr.toList.isEmpty && n.repr.toList.all isDigit) = true := by
    rw [all_isDigit_repr, Bool.and_true, Bool.not_eq_true', List.isEmpty_eq_false_iff]
    exact repr_ne_nil n
  unfold readDigits?
  rw [if_pos hdigits, valueOfDigits_repr]

/-- A number begins with a digit and not with a sign. -/
lemma exists_repr_eq_cons (n : Nat) :
    ∃ c cs, n.repr.toList = c :: cs ∧ c ≠ '-' ∧ c ≠ '+' := by
  obtain ⟨c, cs, hcs⟩ := List.exists_cons_of_ne_nil (repr_ne_nil n)
  have hdigit : isDigit c = true := by
    have hall := all_isDigit_repr n
    rw [hcs] at hall
    exact List.all_eq_true.mp hall c List.mem_cons_self
  refine ⟨c, cs, hcs, ?_, ?_⟩ <;> rintro rfl <;> exact absurd hdigit (by decide)

/-- A word of 64 bits is read back from its digits. -/
theorem readWord?_repr {n : Nat} (h : n ≤ maxWord) : readWord? n.repr = some n := by
  have hread := readDigits?_repr n
  obtain ⟨c, cs, hcs, -, hplus⟩ := exists_repr_eq_cons n
  unfold readWord?
  rw [hcs] at hread ⊢
  simp only
  split
  · next heq => exact absurd (List.cons.inj heq).1 hplus
  · rw [hread, Option.filter_some, if_pos (decide_eq_true h)]

/-- What is read is within the bound. -/
lemma le_maxWord_of_readWord? {s : String} {n : Nat} (h : readWord? s = some n) : n ≤ maxWord :=
  of_decide_eq_true (Option.filter_eq_some_iff.mp h).2

/-- A natural number is written in characters of a number. -/
lemma isNumeral_of_mem_repr {n : Nat} {c : Char} (h : c ∈ n.repr.toList) : isNumeral c = true := by
  unfold isNumeral
  rw [List.all_eq_true.mp (all_isDigit_repr n) c h, Bool.true_or]

/-! ### Signed numbers -/

/-- The range of signed 64-bit numbers. -/
def InInteger64 (t : Int) : Prop :=
  -(maxInteger + 1 : Int) ≤ t ∧ t ≤ maxInteger

instance (t : Int) : Decidable (InInteger64 t) :=
  inferInstanceAs (Decidable (_ ∧ _))

/-- A negative number is written as a minus sign and digits. -/
lemma toList_toString_negSucc (n : Nat) :
    (toString (Int.negSucc n)).toList = '-' :: (n + 1).repr.toList := by
  have h : toString (Int.negSucc n) = "-" ++ (n + 1).repr := rfl
  rw [h, String.toList_append]
  rfl

/-- A signed integer of 64 bits is read back from its text. -/
theorem readInteger?_toString {t : Int} (h : InInteger64 t) :
    readInteger? (toString t) = some t := by
  obtain ⟨hlow, hhigh⟩ := h
  cases t with
  | ofNat n =>
    have hread := readDigits?_repr n
    obtain ⟨c, cs, hcs, hminus, hplus⟩ := exists_repr_eq_cons n
    have htext : toString (Int.ofNat n) = n.repr := rfl
    have hn : n ≤ maxInteger := Int.ofNat_le.mp hhigh
    unfold readInteger?
    rw [htext]
    rw [hcs] at hread ⊢
    split
    · next heq => exact absurd (List.cons.inj heq).1 hminus
    · next heq => exact absurd (List.cons.inj heq).1 hplus
    · rw [hread, Option.filter_some, if_pos (decide_eq_true hn)]
      rfl
  | negSucc n =>
    have hn : n + 1 ≤ maxInteger + 1 := by omega
    unfold readInteger?
    rw [toList_toString_negSucc]
    simp only [readDigits?_repr]
    rw [Option.filter_some, if_pos (decide_eq_true hn)]
    rfl

/-- An integer is written in characters of a number. -/
lemma isNumeral_of_mem_toString {t : Int} {c : Char} (h : c ∈ (toString t).toList) :
    isNumeral c = true := by
  cases t with
  | ofNat n => exact isNumeral_of_mem_repr h
  | negSucc n =>
    rw [toList_toString_negSucc, List.mem_cons] at h
    rcases h with rfl | h
    · rfl
    · exact isNumeral_of_mem_repr h

end TableShell
