import TableShell.Proofs.Line.Scanning
import TableShell.Proofs.Text.Trimming

/-!
# Words that are typed and words that are run

A stage that is run loses the blanks around it before its words are read, and a stage that is typed
keeps them. The blanks in front of a stage stand outside of quotes, and so do those behind it, with
one exception: a quote that is left open takes them into the last word of the line.

The main statement says that the words of a line that is being typed are, stage by stage, the words
that are run, up to the blanks in that last word.
-/

namespace TableShell.Line

/-! ### Blanks around a stage -/

/-- Blanks in front of a stage are passed over. -/
lemma scanWords_trimStart (stage : List Char) :
    scanWords (Text.trimStartChars stage) = scanWords stage := by
  induction stage with
  | nil => rfl
  | cons c stage ih =>
    by_cases hc : Text.isBlank c = true
    · have hstep : WordScan.step {} c = {} := WordScan.step_blank_of_closed hc rfl
      rw [Text.trimStartChars, List.dropWhile_cons_of_pos hc, ← Text.trimStartChars, ih, scanWords,
        scanWords, List.foldl_cons, hstep]
    · rw [Text.trimStartChars, List.dropWhile_cons_of_neg hc]

/-- A quote that is open has begun a word. -/
lemma started_of_quoted (stage : List Char) (h : (scanWords stage).quoted = true) :
    (scanWords stage).started = true := by
  induction stage using List.reverseRecOn with
  | nil => exact absurd h (by decide)
  | append_singleton stage c ih =>
    rw [scanWords_concat] at h ⊢
    by_cases hquote : c = '"'
    · rw [hquote, WordScan.step_quote]
    by_cases hgap : Text.isBlank c = true → (scanWords stage).quoted = true
    · rw [WordScan.step_other hquote hgap]
    · -- A blank that ends a word leaves the quotes as they are, and these are closed.
      obtain ⟨hc, hclosed⟩ := Classical.not_imp.mp hgap
      have hclosed : (scanWords stage).quoted = false := by simpa using hclosed
      rw [WordScan.step_blank_of_closed hc hclosed, WordScan.quoted_endWord, hclosed] at h
      exact absurd h (by decide)

/-- Outside of quotes, blanks behind a stage do no more than end its last word. -/
lemma endWord_scanWords_append_blanks {stage blanks : List Char}
    (hblanks : ∀ c ∈ blanks, Text.isBlank c = true) (hclosed : (scanWords stage).quoted = false) :
    (scanWords (stage ++ blanks)).endWord = (scanWords stage).endWord := by
  induction blanks using List.reverseRecOn with
  | nil => rw [List.append_nil]
  | append_singleton blanks c ih =>
    have ih := ih fun x hx => hblanks x (List.mem_append_left _ hx)
    have hstill : (scanWords (stage ++ blanks)).quoted = false := by
      rw [← WordScan.quoted_endWord, ih, WordScan.quoted_endWord, hclosed]
    rw [← List.append_assoc, scanWords_concat,
      WordScan.step_blank_of_closed (hblanks c (by simp)) hstill, WordScan.endWord_endWord, ih]

/-- In an open quote, blanks behind a stage belong to its last word. -/
lemma scanWords_append_blanks {stage blanks : List Char}
    (hblanks : ∀ c ∈ blanks, Text.isBlank c = true) (hopen : (scanWords stage).quoted = true) :
    scanWords (stage ++ blanks) =
      { scanWords stage with current := (scanWords stage).current ++ blanks } := by
  induction blanks using List.reverseRecOn with
  | nil => simp
  | append_singleton blanks c ih =>
    have ih := ih fun x hx => hblanks x (List.mem_append_left _ hx)
    have hne : c ≠ '"' := by
      rintro rfl
      exact absurd (hblanks '"' (by simp)) (by decide)
    have hstarted := started_of_quoted stage hopen
    rw [← List.append_assoc, scanWords_concat,
      WordScan.step_other hne (fun _ => by rw [ih]; exact hopen), ih]
    simp [hstarted]

/-- The blanks around a stage do not open or close a quote. -/
lemma quoted_scanWords_trim (stage : List Char) :
    (scanWords (Text.trimChars stage)).quoted = (scanWords stage).quoted := by
  obtain ⟨blanks, hblanks, hstage⟩ := Text.exists_trimStartChars_eq stage
  rw [← scanWords_trimStart stage, hstage]
  cases hquoted : (scanWords (Text.trimChars stage)).quoted with
  | true => rw [scanWords_append_blanks hblanks hquoted, hquoted]
  | false =>
    rw [← WordScan.quoted_endWord, endWord_scanWords_append_blanks hblanks hquoted,
      WordScan.quoted_endWord, hquoted]

/-- Where every quote is closed, the blanks around a stage do not count. -/
lemma rawWords_trim_of_closed {stage : List Char} (h : (scanWords stage).quoted = false) :
    rawWords (Text.trimChars stage) = rawWords stage := by
  obtain ⟨blanks, hblanks, hstage⟩ := Text.exists_trimStartChars_eq stage
  rw [← quoted_scanWords_trim] at h
  rw [rawWords, rawWords, ← scanWords_trimStart stage, hstage,
    endWord_scanWords_append_blanks hblanks h]

/-- Where a quote is left open, the blanks behind a stage are missing from its last word. -/
lemma rawWords_trim_of_open {stage : List Char} (h : (scanWords stage).quoted = true) :
    ∃ init typed run, rawWords stage = init ++ [typed] ∧
      rawWords (Text.trimChars stage) = init ++ [run] ∧ Text.trimEnd typed = Text.trimEnd run := by
  obtain ⟨blanks, hblanks, hstage⟩ := Text.exists_trimStartChars_eq stage
  rw [← quoted_scanWords_trim] at h
  have hstarted := started_of_quoted _ h
  have hscan := scanWords_append_blanks hblanks h
  rw [← hstage, scanWords_trimStart] at hscan
  rw [rawWords, rawWords, hscan]
  generalize scanWords (Text.trimChars stage) = s at hstarted
  refine ⟨s.ended, .ofList (s.current ++ blanks), .ofList s.current, ?_, ?_, ?_⟩
  · simp [WordScan.endWord, hstarted]
  · simp [WordScan.endWord, hstarted]
  · simp only [Text.trimEnd, String.toList_ofList, Text.trimEndChars_append_blanks _ hblanks]

/-! ### Open quotes -/

/-- Only quotes open and close quotes. -/
lemma StageScan.quoted_step {c : Char} (s : StageScan) (hc : c ≠ '"') :
    (s.step c).quoted = s.quoted := by
  simp only [step, beq_iff_eq, hc, if_false]
  split <;> rfl

/-- A quote is open behind a text that has an odd number of quotes. -/
lemma quoted_stageScan (text : List Char) :
    (text.foldl StageScan.step {}).quoted = decide (text.count '"' % 2 = 1) := by
  induction text using List.reverseRecOn with
  | nil => rfl
  | append_singleton text c ih =>
    rw [List.foldl_append, List.foldl_cons, List.foldl_nil, List.count_append]
    by_cases hquote : c = '"'
    · subst hquote
      have hstep : ((text.foldl StageScan.step {}).step '"').quoted =
          !(text.foldl StageScan.step {}).quoted := rfl
      rw [hstep, ih, List.count_singleton_self, ← decide_not, decide_eq_decide]
      omega
    · have hcount : [c].count '"' = 0 := by simp [hquote]
      rw [StageScan.quoted_step _ hquote, ih, hcount, Nat.add_zero]

/-- A text that is being typed ends in an open quote if it has an odd number of quotes. -/
lemma isSome_openQuote? (text : List Char) :
    (openQuote? text).isSome = decide (text.count '"' % 2 = 1) := by
  obtain ⟨done, last, h⟩ := inStep_scan text
  rw [openQuote?, h.quoted, quoted_stageScan]

/-- A quote can be open behind the last stage only. -/
lemma quoted_rawStages (text : List Char) {i : Nat} (hi : i < (rawStages text).length) :
    (scanWords (rawStages text)[i]).quoted = true ↔
      i + 1 = (rawStages text).length ∧ text.count '"' % 2 = 1 := by
  obtain ⟨done, last, h⟩ := inStep_scan text
  have hodd := quoted_stageScan text
  generalize hs : text.foldl StageScan.step {} = s at h hodd
  have hstages : rawStages text = s.ended ++ [s.current] := by rw [rawStages, hs]
  simp only [hstages, List.length_append, List.length_singleton, Nat.add_right_cancel_iff] at hi ⊢
  rcases Nat.lt_succ_iff_lt_or_eq.mp hi with hlt | rfl
  · have hclosed := h.closed s.ended[i] (List.getElem_mem hlt)
    rw [List.getElem_append_left hlt, hclosed]
    simp [Nat.ne_of_lt hlt]
  · rw [List.getElem_concat_length rfl, h.current, hodd, decide_eq_true_eq]
    simp

/-! ### Typed and run -/

/-- The text before the cursor has as many stages for the one who types as for the one who runs
it, and stage by stage the tokens without their quotes are the words that are run. Where a quote
is left open, the last word of the last stage can differ, by the blanks at its end. -/
theorem tokens_agree_with_words (line : String) (cursor : Nat) :
    let before := Text.beforeByte cursor line.toList
    let groups := (tokens before).splitOn "|"
    let stages := stages (.ofList before)
    groups.length = stages.length ∧
      ∀ i : Fin groups.length, ∃ stage, stages[i.val]? = some stage ∧
        let typed := groups[i].map unquote
        let run := words stage
        if i.val + 1 = groups.length ∧ before.count '"' % 2 = 1 then
          ∃ init a b, typed = init ++ [a] ∧ run = init ++ [b] ∧ Text.trimEnd a = Text.trimEnd b
        else typed = run := by
  intro before groups stages
  have hagree : (rawStages before).map rawWords = groups.map (List.map unquote) :=
    rawWords_rawStages before
  have hlength : groups.length = (rawStages before).length := by
    simpa using (congrArg List.length hagree).symm
  have hstages : stages = (rawStages before).map fun stage => .ofList (Text.trimChars stage) := by
    simp only [stages, Line.stages, String.toList_ofList]
  refine ⟨by simp [hlength, hstages], ?_⟩
  rintro ⟨i, hg⟩
  have hi : i < (rawStages before).length := hlength ▸ hg
  refine ⟨.ofList (Text.trimChars (rawStages before)[i]), by simp [hstages, hi], ?_⟩
  intro typed run
  have htyped : typed = rawWords (rawStages before)[i] := by
    have hmapped : i < ((rawStages before).map rawWords).length := by simpa using hi
    have hword := List.getElem_of_eq hagree hmapped
    simpa [typed] using hword.symm
  have hrun : run = rawWords (Text.trimChars (rawStages before)[i]) := by
    simp only [run, words_eq_rawWords, String.toList_ofList]
  have hquoted := quoted_rawStages before hi
  rw [← hlength] at hquoted
  rw [htyped, hrun]
  by_cases hopen : i + 1 = groups.length ∧ before.count '"' % 2 = 1
  · rw [if_pos hopen]
    exact rawWords_trim_of_open (hquoted.mpr hopen)
  · rw [if_neg hopen]
    have hclosed : (scanWords (rawStages before)[i]).quoted = false := by
      rw [← Bool.not_eq_true, hquoted]
      exact hopen
    exact (rawWords_trim_of_closed hclosed).symm

/-- A bar between quotes is no boundary, and the blanks behind an open quote belong to its word. -/
example :
    (tokens "ls \"a|b\"c | x \"y ".toList).splitOn "|" = [["ls", "\"a|b\"c"], ["x", "\"y "]] ∧
      (stages "ls \"a|b\"c | x \"y ").map words = [["ls", "a|bc"], ["x", "y"]] := by
  decide +kernel

end TableShell.Line
