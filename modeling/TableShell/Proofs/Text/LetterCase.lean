import Mathlib.Tactic.Common
import TableShell.Text.Ascii
import TableShell.Text.Lowercase

/-!
# Lower case within ASCII

The full lower-case mapping agrees with that of the letters `A`–`Z` on texts that hold nothing but
ASCII. So a text that differs from a name in small letters by ASCII case has that name as its lower
case. Beyond ASCII only this much is said: the mapping neither makes nor removes a quote.
-/

namespace TableShell.Text

/-- A character of ASCII that is its own small letter. -/
def IsSmallAscii (c : Char) : Prop :=
  c.toNat < 0x80 ∧ c.toLower = c

instance : DecidablePred IsSmallAscii := fun c =>
  inferInstanceAs (Decidable (c.toNat < 0x80 ∧ c.toLower = c))

/-- The small letters stand 32 places behind the capitals. -/
lemma toNat_toLower (c : Char) :
    c.toLower.toNat = if 0x41 ≤ c.toNat ∧ c.toNat ≤ 0x5A then c.toNat + 32 else c.toNat := by
  have hcapital : c.val ≥ 'A'.val ∧ c.val ≤ 'Z'.val ↔ 0x41 ≤ c.toNat ∧ c.toNat ≤ 0x5A := by
    rw [ge_iff_le, UInt32.le_iff_toNat_le, UInt32.le_iff_toNat_le]
    exact Iff.rfl
  unfold Char.toLower
  by_cases h : c.val ≥ 'A'.val ∧ c.val ≤ 'Z'.val
  · have hsum : (c.val + ('a'.val - 'A'.val)).toNat = (c.toNat + 32) % 2 ^ 32 :=
      UInt32.toNat_add _ _
    have hhigh := (hcapital.mp h).2
    rw [dif_pos h, if_pos (hcapital.mp h), Char.toNat, hsum]
    omega
  · rw [dif_neg h, if_neg (mt hcapital.mpr h)]

/-- A letter of ASCII is the small letter of itself and of its capital alone. -/
lemma toLower_eq_iff {c small capital : Char} (hlow : 0x41 ≤ capital.toNat)
    (hhigh : capital.toNat ≤ 0x5A) (hsmall : capital.toLower = small) :
    c.toLower = small ↔ c = small ∨ c = capital := by
  subst hsmall
  simp only [← Char.toNat_inj, toNat_toLower]
  split_ifs <;> omega

/-- Only letters of ASCII have small letters of ASCII. -/
lemma toNat_lt_of_toLower {c : Char} (h : c.toLower.toNat < 0x80) : c.toNat < 0x80 := by
  rw [toNat_toLower] at h
  split_ifs at h <;> omega

/-- Within ASCII every character is put into lower case on its own. -/
lemma lowerAfter_of_ascii {cs : List Char} (h : ∀ c ∈ cs, c.toNat < 0x80) (before : List Char) :
    lowerAfter before cs = cs.map Char.toLower := by
  induction cs generalizing before with
  | nil => rfl
  | cons c cs ih =>
    obtain ⟨hc, hcs⟩ := List.forall_mem_cons.mp h
    have hsigma : c ≠ 'Σ' := by
      rintro rfl
      exact absurd hc (by decide)
    have hsmall : lowerChar c = [c.toLower] := by
      rw [lowerChar, if_pos hc]
    simp only [lowerAfter, beq_iff_eq, hsigma, if_false, hsmall, ih hcs, List.map_cons,
      List.singleton_append]

/-- A text that is the same as a small name but for its case becomes that name in lower case. -/
lemma lowercase_of_sameIgnoringCase {name s : String} (hname : ∀ c ∈ name.toList, IsSmallAscii c)
    (h : sameIgnoringCase name s = true) : lowercase s = name := by
  have hsmall : name.toList.map Char.toLower = name.toList := by
    rw [List.map_congr_left fun c hc => (hname c hc).2, List.map_id']
  have hsame : name.toList = s.toList.map Char.toLower := by
    rw [← hsmall]
    exact beq_iff_eq.mp h
  have hascii : ∀ c ∈ s.toList, c.toNat < 0x80 := by
    intro c hc
    refine toNat_lt_of_toLower (hname c.toLower ?_).1
    rw [hsame]
    exact List.mem_map_of_mem hc
  rw [lowercase, lowerChars, lowerAfter_of_ascii hascii, ← hsame, String.ofList_toList]

/-! ### Quotes -/

/-- The small letters of capitals beyond ASCII stand behind the signs of ASCII, if they do in every
run. -/
lemma lt_lowerIn {runs : List (Nat × Nat × Nat × Int)} {n : Nat} (hn : 0x80 ≤ n)
    (hruns : ∀ run ∈ runs, 0x40 < (run.1 : Int) + run.2.2.2) : 0x40 < lowerIn runs n := by
  induction runs with
  | nil =>
    rw [lowerIn]
    omega
  | cons run runs ih =>
    obtain ⟨first, last, step, shift⟩ := run
    obtain ⟨hrun, hlater⟩ := List.forall_mem_cons.mp hruns
    rw [lowerIn]
    split
    · omega
    · split
      · have hshift : 0x40 < (first : Int) + shift := hrun
        omega
      · exact ih hlater

/-- No character but a quote becomes a quote in lower case. -/
lemma eq_quote_of_mem_lowerChar {c : Char} (h : '"' ∈ lowerChar c) : c = '"' := by
  have hruns : ∀ run ∈ capitalRuns, 0x40 < (run.1 : Int) + run.2.2.2 := by decide +kernel
  unfold lowerChar at h
  split at h
  · next hascii =>
    have hall : ∀ n < 0x80, (Char.ofNat n).toLower = '"' → Char.ofNat n = '"' := by decide +kernel
    have hsmall := hall c.toNat hascii
    rw [Char.ofNat_toNat] at hsmall
    exact hsmall (List.mem_singleton.mp h).symm
  · next hascii =>
    split at h
    · exact absurd h (by decide)
    · have hsmall : Char.ofNat (lowerIn capitalRuns c.toNat) = '"' :=
        (List.mem_singleton.mp h).symm
      have hbehind := lt_lowerIn (Nat.not_lt.mp hascii) hruns
      by_cases hvalid : (lowerIn capitalRuns c.toNat).isValidChar
      · rw [Char.ofNat, dif_pos hvalid] at hsmall
        have hvalue : lowerIn capitalRuns c.toNat = '"'.toNat := congrArg Char.toNat hsmall
        have hquote : '"'.toNat = 0x22 := rfl
        omega
      · rw [Char.ofNat, dif_neg hvalid] at hsmall
        exact absurd hsmall (by decide)

/-- Lower case neither makes nor removes a quote. -/
lemma quote_mem_lowerChars {cs : List Char} : '"' ∈ lowerChars cs ↔ '"' ∈ cs := by
  have hafter : ∀ before, '"' ∈ lowerAfter before cs ↔ '"' ∈ cs := by
    induction cs with
    | nil => exact fun _ => Iff.rfl
    | cons c cs ih =>
      intro before
      rw [lowerAfter, List.mem_append, ih, List.mem_cons]
      refine or_congr ?_ Iff.rfl
      split
      · next hsigma =>
        have hc : c = 'Σ' := beq_iff_eq.mp hsigma
        subst hc
        split <;> decide
      · constructor
        · intro h
          exact (eq_quote_of_mem_lowerChar h).symm
        · rintro rfl
          decide
  exact hafter []

end TableShell.Text
