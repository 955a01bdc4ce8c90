import Mathlib.Data.List.Forall2
import TableShell.Proofs.Line.LastWord

/-!
# Quoted words

Any words without quotes can be written into a line: each between quotes, with a blank between the
words of a stage and a bar between the stages. The line is cut back into the same words.

Both scanners are followed through the line. A word between quotes leaves a closed scanner closed,
so that the scanner for stages cuts at the written bars only, and the scanner for words ends a word
at the written blanks only. A stage is cut out with the blanks around its bars; as its quotes are
closed, these are trimmed without touching a word.
-/

namespace TableShell.Line

/-! ### Lines of quoted words -/

/-- A word between quotes. -/
def quotedWord (word : String) : String :=
  "\"" ++ word ++ "\""

/-- A stage of quoted words. -/
def quotedStage (stage : List String) : String :=
  " ".intercalate (stage.map quotedWord)

/-- A line of such stages. -/
def quotedLine (line : List (List String)) : String :=
  " | ".intercalate (line.map quotedStage)

/-- The characters of a word in quotes. -/
lemma toList_quotedWord (word : String) :
    (quotedWord word).toList = '"' :: (word.toList ++ ['"']) := by
  simp [quotedWord]

/-- A stage without words is an empty text. -/
@[simp] lemma toList_quotedStage_nil : (quotedStage []).toList = [] := rfl

/-- A stage of one word is that word in quotes. -/
@[simp] lemma toList_quotedStage_singleton (word : String) :
    (quotedStage [word]).toList = (quotedWord word).toList := by
  simp [quotedStage]

/-- Words of a stage stand apart by a blank. -/
@[simp] lemma toList_quotedStage_cons_cons (word next : String) (stage : List String) :
    (quotedStage (word :: next :: stage)).toList =
      (quotedWord word).toList ++ ' ' :: (quotedStage (next :: stage)).toList := by
  simp [quotedStage, String.toList_intercalate]

/-- A line of one stage is that stage. -/
@[simp] lemma toList_quotedLine_singleton (stage : List String) :
    (quotedLine [stage]).toList = (quotedStage stage).toList := by
  simp [quotedLine]

/-- Stages of a line stand apart by a bar with blanks around it. -/
@[simp] lemma toList_quotedLine_cons_cons (stage next : List String) (line : List (List String)) :
    (quotedLine (stage :: next :: line)).toList =
      (quotedStage stage).toList ++ ' ' :: '|' :: ' ' :: (quotedLine (next :: line)).toList := by
  simp [quotedLine, String.toList_intercalate]

/-! ### The scanner for stages -/

variable {word : String} {stage : List String} {line : List (List String)}

/-- A quoted word belongs to the stage, with the bars in it. -/
lemma StageScan.foldl_step_quotedWord {s : StageScan} (hword : '"' ∉ word.toList)
    (hclosed : s.quoted = false) :
    (quotedWord word).toList.foldl step s =
      { s with current := s.current ++ (quotedWord word).toList } := by
  have hopen : s.step '"' = { s with current := s.current ++ ['"'], quoted := true } := by
    simp [step, hclosed]
  rw [toList_quotedWord, List.foldl_cons, List.foldl_append, hopen,
    foldl_step_of_plain hword fun _ => rfl]
  simp [step, hclosed]

/-- So does a whole stage of them. -/
lemma StageScan.foldl_step_quotedStage {s : StageScan}
    (hstage : ∀ word ∈ stage, '"' ∉ word.toList) (hclosed : s.quoted = false) :
    (quotedStage stage).toList.foldl step s =
      { s with current := s.current ++ (quotedStage stage).toList } := by
  induction stage generalizing s with
  | nil => simp
  | cons word stage ih =>
    have hword := foldl_step_quotedWord (hstage word List.mem_cons_self) hclosed
    cases stage with
    | nil => rw [toList_quotedStage_singleton, hword]
    | cons next stage =>
      have hblank : ∀ t : StageScan, t.step ' ' = { t with current := t.current ++ [' '] } :=
        fun _ => rfl
      rw [toList_quotedStage_cons_cons, List.foldl_append, hword, List.foldl_cons, hblank,
        ih fun w hw => hstage w (List.mem_cons_of_mem _ hw)]
      · simp
      · exact hclosed

/-! ### The scanner for words -/

/-- A quoted word is begun even if it is empty, and the blanks in it do not end it. -/
lemma WordScan.foldl_step_quotedWord {s : WordScan} (hword : '"' ∉ word.toList)
    (hclosed : s.quoted = false) :
    (quotedWord word).toList.foldl step s =
      { s with current := s.current ++ word.toList, started := true } := by
  rw [toList_quotedWord, List.foldl_cons, List.foldl_append, step_quote, hclosed,
    foldl_step_of_plain hword fun _ _ _ => rfl, List.foldl_cons, List.foldl_nil, step_quote]
  simp

/-- A stage of quoted words is cut into these words. -/
lemma WordScan.endWord_foldl_step_quotedStage (hstage : ∀ word ∈ stage, '"' ∉ word.toList)
    (ended : List String) :
    ((quotedStage stage).toList.foldl step { ended }).endWord = { ended := ended ++ stage } := by
  induction stage generalizing ended with
  | nil => simp [endWord]
  | cons word stage ih =>
    have hword := foldl_step_quotedWord (s := { ended }) (hstage word List.mem_cons_self) rfl
    have hended : ((quotedWord word).toList.foldl step { ended }).endWord =
        { ended := ended ++ [word] } := by
      rw [hword]
      simp [endWord]
    cases stage with
    | nil => rw [toList_quotedStage_singleton, hended]
    | cons next stage =>
      have hblank := step_blank_of_closed (s := (quotedWord word).toList.foldl step { ended })
        (c := ' ') (by decide) (by rw [hword])
      rw [toList_quotedStage_cons_cons, List.foldl_append, List.foldl_cons, hblank, hended,
        ih fun w hw => hstage w (List.mem_cons_of_mem _ hw)]
      simp

/-! ### Stages with the blanks around them -/

/-- A stage that is given with the blanks around it has certain words, and its quotes are closed. -/
def ReadsAs (raw : List Char) (words : List String) : Prop :=
  (scanWords raw).endWord = { ended := words }

/-- At the end of such a stage no quote is open. -/
lemma ReadsAs.closed {raw : List Char} {words : List String} (h : ReadsAs raw words) :
    (scanWords raw).quoted = false := by
  rw [← WordScan.quoted_endWord, h]

/-- The blanks around it do not count. -/
lemma ReadsAs.words_trim {raw : List Char} {words : List String} (h : ReadsAs raw words) :
    Line.words (.ofList (Text.trimChars raw)) = words := by
  rw [words_eq_rawWords, String.toList_ofList, rawWords_trim_of_closed h.closed, rawWords, h]

/-- A blank behind a stage changes nothing. -/
lemma ReadsAs.append_blank {raw : List Char} {words : List String} (h : ReadsAs raw words) :
    ReadsAs (raw ++ [' ']) words := by
  have hblanks : ∀ c ∈ [' '], Text.isBlank c = true := by
    intro c hc
    rw [List.mem_singleton.mp hc]
    decide
  rw [ReadsAs, endWord_scanWords_append_blanks hblanks h.closed, h]

/-- A stage of words in quotes is read as these words. -/
lemma readsAs_append_quotedStage {blanks : List Char} (hblanks : scanWords blanks = {})
    (hstage : ∀ word ∈ stage, '"' ∉ word.toList) :
    ReadsAs (blanks ++ (quotedStage stage).toList) stage := by
  rw [ReadsAs, scanWords_append, hblanks, WordScan.endWord_foldl_step_quotedStage hstage,
    List.nil_append]

/-! ### The line -/

/-- Reading a line of quoted words goes on with its stages, behind blanks. -/
lemma forall₂_readsAs_foldl_quotedLine (hne : line ≠ [])
    (hline : ∀ stage ∈ line, ∀ word ∈ stage, '"' ∉ word.toList) {s : StageScan}
    {before : List (List String)} (hclosed : s.quoted = false) (hblanks : scanWords s.current = {})
    (hbefore : List.Forall₂ ReadsAs s.ended before) :
    let t := (quotedLine line).toList.foldl StageScan.step s
    List.Forall₂ ReadsAs (t.ended ++ [t.current]) (before ++ line) := by
  induction line generalizing s before with
  | nil => exact absurd rfl hne
  | cons stage line ih =>
    have hstage := hline stage List.mem_cons_self
    have hread := readsAs_append_quotedStage hblanks hstage
    have hscan := StageScan.foldl_step_quotedStage hstage hclosed
    cases line with
    | nil =>
      rw [toList_quotedLine_singleton, hscan]
      exact List.rel_append hbefore (.cons hread .nil)
    | cons next line =>
      -- The bar ends the stage with the blank in front of it, and the blank behind it opens the
      -- next one.
      have hbar : (quotedLine (stage :: next :: line)).toList.foldl StageScan.step s =
          (quotedLine (next :: line)).toList.foldl StageScan.step
            { ended := s.ended ++ [s.current ++ (quotedStage stage).toList ++ [' ']]
              current := [' ']
              quoted := false } := by
        rw [toList_quotedLine_cons_cons, List.foldl_append, hscan]
        simp [StageScan.step, hclosed]
      rw [hbar, List.append_cons before]
      exact ih (List.cons_ne_nil _ _) (fun g hg => hline g (List.mem_cons_of_mem _ hg)) rfl rfl
        (List.rel_append hbefore (.cons hread.append_blank .nil))

/-- A line of quoted words is cut into stages with these words. -/
theorem words_stages_quotedLine (hne : line ≠ [])
    (hline : ∀ stage ∈ line, ∀ word ∈ stage, '"' ∉ word.toList) :
    (stages (quotedLine line)).map words = line := by
  have hstart : List.Forall₂ ReadsAs ({} : StageScan).ended [] := .nil
  have hread : List.Forall₂ ReadsAs (rawStages (quotedLine line).toList) line :=
    forall₂_readsAs_foldl_quotedLine (s := {}) hne hline rfl rfl hstart
  rw [stages, List.map_map, ← List.forall₂_eq_eq_eq, List.forall₂_map_left_iff]
  exact hread.imp fun raw words h => h.words_trim

/-- Empty words, blanks and bars between quotes and a stage without words come back. -/
theorem words_stages_quotedLine_mixed :
    let line := [["", " a  | b ", "|"], [], ["\t", ""]]
    quotedLine line = "\"\" \" a  | b \" \"|\" |  | \"\t\" \"\"" ∧
      (stages (quotedLine line)).map words = line := by
  intro line
  exact ⟨by decide +kernel, words_stages_quotedLine (by decide) (by decide +kernel)⟩

end TableShell.Line
