import Mathlib.Data.List.DropRight
import TableShell.Text.Blank

/-!
# Trimming

The blanks that are trimmed from the ends of a text. What is trimmed from the right end is a run of
blanks behind what is left, and further blanks at that end make no difference.
-/

namespace TableShell.Text

/-- A run of dropped characters at the right end does not show. -/
lemma rdropWhile_append_of_all {p : Char → Bool} {bs : List Char} (as : List Char)
    (h : ∀ c ∈ bs, p c = true) : (as ++ bs).rdropWhile p = as.rdropWhile p := by
  rw [List.rdropWhile, List.reverse_append, List.dropWhile_append_of_pos (by simpa using h),
    List.rdropWhile]

/-- Trimming the end drops the blanks there. -/
lemma trimEndChars_eq (cs : List Char) : trimEndChars cs = cs.rdropWhile isBlank := rfl

/-- Blanks at the right end are trimmed. -/
lemma trimEndChars_append_blanks {blanks : List Char} (cs : List Char)
    (h : ∀ c ∈ blanks, isBlank c = true) : trimEndChars (cs ++ blanks) = trimEndChars cs := by
  rw [trimEndChars_eq, rdropWhile_append_of_all cs h, trimEndChars_eq]

/-- A text is what is left of it and the blanks that are trimmed from its right end. -/
lemma exists_eq_trimEndChars (cs : List Char) :
    ∃ blanks, (∀ c ∈ blanks, isBlank c = true) ∧ cs = trimEndChars cs ++ blanks := by
  refine ⟨cs.rtakeWhile isBlank, fun c hc => List.mem_rtakeWhile_imp hc, ?_⟩
  rw [trimEndChars_eq, List.rdropWhile_append_rtakeWhile]

/-- A text trimmed at its left end is the trimmed text and the blanks behind it. -/
lemma exists_trimStartChars_eq (cs : List Char) :
    ∃ blanks, (∀ c ∈ blanks, isBlank c = true) ∧
      trimStartChars cs = trimChars cs ++ blanks :=
  exists_eq_trimEndChars (trimStartChars cs)

/-- A text is the trimmed text and the blanks at its ends. -/
lemma exists_eq_trimChars (cs : List Char) :
    ∃ before after, (∀ c ∈ before, isBlank c = true) ∧ (∀ c ∈ after, isBlank c = true) ∧
      cs = before ++ trimChars cs ++ after := by
  obtain ⟨after, hafter, hstart⟩ := exists_trimStartChars_eq cs
  refine ⟨cs.takeWhile isBlank, after, fun c hc => List.mem_takeWhile_imp hc, hafter, ?_⟩
  rw [List.append_assoc, ← hstart]
  exact List.takeWhile_append_dropWhile.symm

/-- Blanks in front of a text are trimmed. -/
lemma trimChars_blanks_append {blanks : List Char} (cs : List Char)
    (h : ∀ c ∈ blanks, isBlank c = true) : trimChars (blanks ++ cs) = trimChars cs := by
  unfold trimChars trimStartChars
  rw [List.dropWhile_append_of_pos h]

/-- Blanks behind a text are trimmed. -/
lemma trimChars_append_blanks {blanks : List Char} (cs : List Char)
    (h : ∀ c ∈ blanks, isBlank c = true) : trimChars (cs ++ blanks) = trimChars cs := by
  unfold trimChars trimStartChars
  rw [List.dropWhile_append]
  split
  · next hempty =>
    rw [List.isEmpty_iff.mp hempty, List.dropWhile_eq_nil_iff.mpr h]
  · exact trimEndChars_append_blanks _ h

/-- In front of a character that is not blank, a text is trimmed on its own. -/
lemma trimStartChars_append_cons {c : Char} (as bs : List Char) (hc : isBlank c = false) :
    trimStartChars (as ++ c :: bs) = trimStartChars as ++ c :: bs := by
  unfold trimStartChars
  induction as with
  | nil => simp [hc]
  | cons a as ih =>
    cases ha : isBlank a with
    | true =>
      rw [List.cons_append, List.dropWhile_cons_of_pos ha, ih, List.dropWhile_cons_of_pos ha]
    | false => simp [ha]

/-- Behind a character that is not blank, a text is trimmed on its own. -/
lemma trimEndChars_append_cons {c : Char} (as bs : List Char) (hc : isBlank c = false) :
    trimEndChars (as ++ c :: bs) = as ++ c :: trimEndChars bs := by
  have hstart := trimStartChars_append_cons bs.reverse as.reverse hc
  unfold trimStartChars at hstart
  unfold trimEndChars
  rw [List.reverse_append, List.reverse_cons, List.append_assoc, List.singleton_append, hstart]
  simp

/-- A text has nothing to trim if it has no blanks at its ends. -/
lemma trimChars_eq_self_of_ends {cs : List Char} (hfirst : ∀ c ∈ cs.head?, isBlank c = false)
    (hlast : ∀ c ∈ cs.getLast?, isBlank c = false) : trimChars cs = cs := by
  have hstart : trimStartChars cs = cs := by
    unfold trimStartChars
    rw [List.dropWhile_eq_self_iff]
    intro hpos
    have hmem : cs[0] ∈ cs.head? := by
      rw [List.head?_eq_getElem?, List.getElem?_eq_getElem hpos]
      rfl
    simp [hfirst _ hmem]
  unfold trimChars
  rw [hstart, trimEndChars_eq, List.rdropWhile_eq_self_iff]
  intro hne
  simp [hlast _ (List.getLast_mem_getLast? hne)]

/-- In front of a text that does not begin with a blank there are no blanks. -/
lemma eq_nil_of_blanks {blanks cs : List Char} (hblanks : ∀ c ∈ blanks, isBlank c = true)
    (hfirst : ∀ c ∈ (blanks ++ cs).head?, isBlank c = false) : blanks = [] := by
  cases blanks with
  | nil => rfl
  | cons c blanks =>
    have hblank := hblanks c List.mem_cons_self
    rw [hfirst c rfl] at hblank
    cases hblank

/-- What is left of a text that is trimmed at its right end does not end in a blank. -/
lemma isBlank_of_mem_getLast?_trimEndChars {cs : List Char} {c : Char}
    (h : c ∈ (trimEndChars cs).getLast?) : isBlank c = false := by
  obtain ⟨hne, hlast⟩ := List.mem_getLast?_eq_getLast h
  have hnot := List.rdropWhile_last_not isBlank cs hne
  rw [hlast]
  exact Bool.eq_false_iff.mpr hnot

/-- A trimmed text does not begin with a blank. -/
lemma isBlank_of_mem_head?_trimChars {cs : List Char} {c : Char} (h : c ∈ (trimChars cs).head?) :
    isBlank c = false := by
  obtain ⟨blanks, -, hstart⟩ := exists_trimStartChars_eq cs
  have hfirst : (trimStartChars cs).head? = some c := by
    rw [hstart, List.head?_append, Option.mem_def.mp h, Option.some_or]
  have hnot := List.head?_dropWhile_not isBlank cs
  unfold trimStartChars at hfirst
  rwa [hfirst] at hnot

/-- A trimmed text does not end in a blank. -/
lemma isBlank_of_mem_getLast?_trimChars {cs : List Char} {c : Char}
    (h : c ∈ (trimChars cs).getLast?) : isBlank c = false :=
  isBlank_of_mem_getLast?_trimEndChars h

/-- A text that does not end in a blank has nothing to trim at its right end. -/
lemma trimEndChars_eq_self_iff {cs : List Char} :
    trimEndChars cs = cs ↔ ∀ c ∈ cs.getLast?, isBlank c = false := by
  rw [trimEndChars_eq, List.rdropWhile_eq_self_iff]
  constructor
  · intro h c hc
    obtain ⟨hne, rfl⟩ := List.mem_getLast?_eq_getLast hc
    exact Bool.eq_false_iff.mpr (h hne)
  · intro h hne
    exact Bool.eq_false_iff.mp (h _ (List.getLast_mem_getLast? hne))

/-- A text in front of a trimmed one makes up for the blanks that were trimmed only if both are
empty. -/
lemma append_trimEndChars_eq_self_iff {as cs : List Char} (hcs : ∃ c ∈ cs, isBlank c = false) :
    as ++ trimEndChars cs = cs ↔ as = [] ∧ trimEndChars cs = cs := by
  constructor
  · intro h
    obtain ⟨blanks, hblanks, hsplit⟩ := exists_eq_trimEndChars cs
    rcases List.eq_nil_or_concat blanks with rfl | ⟨before, blank, rfl⟩
    · have htrim : trimEndChars cs = cs := by rw [← List.append_nil (trimEndChars cs), ← hsplit]
      rw [htrim] at h
      exact ⟨List.append_left_eq_self.mp h, htrim⟩
    · -- The last character would be a blank on one side and none on the other.
      have hne : trimEndChars cs ≠ [] := by
        intro hnil
        obtain ⟨c, hc, hnot⟩ := hcs
        rw [hsplit, hnil, List.nil_append] at hc
        rw [hblanks c hc] at hnot
        cases hnot
      have hlast : (trimEndChars cs).getLast? = some blank := by
        rw [← List.getLast?_append_of_ne_nil as hne, h, hsplit]
        simp
      have hnot := isBlank_of_mem_getLast?_trimEndChars hlast
      rw [hblanks blank (by simp)] at hnot
      cases hnot
  · rintro ⟨rfl, htrim⟩
    rw [htrim, List.nil_append]

/-- A trimmed text has nothing to trim. -/
lemma trimChars_trimChars (cs : List Char) : trimChars (trimChars cs) = trimChars cs :=
  trimChars_eq_self_of_ends (fun _ => isBlank_of_mem_head?_trimChars)
    fun _ => isBlank_of_mem_getLast?_trimChars

/-- Trimming adds no characters. -/
lemma mem_of_mem_trimChars {cs : List Char} {c : Char} (h : c ∈ trimChars cs) : c ∈ cs := by
  have hstart : c ∈ trimStartChars cs := by
    obtain ⟨blanks, -, heq⟩ := exists_trimStartChars_eq cs
    rw [heq]
    exact List.mem_append_left _ h
  exact (List.dropWhile_suffix isBlank).subset hstart

/-- A text without blanks has nothing to trim. -/
lemma trimChars_eq_self {cs : List Char} (h : ∀ c ∈ cs, isBlank c = false) :
    trimChars cs = cs :=
  trimChars_eq_self_of_ends (fun c hc => h c (List.mem_of_mem_head? hc))
    fun c hc => h c (List.mem_of_mem_getLast? hc)

end TableShell.Text
