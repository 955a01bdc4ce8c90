import Mathlib.Data.List.Induction
import Mathlib.Tactic.Common
import TableShell.Line.Words
import TableShell.Proofs.Text.Boundary
import TableShell.Proofs.Text.Lines

/-!
# Scanners in step

A line that is typed is read by one scanner, and a line that is run by two, one for its stages and
one for the words of a stage. Each of the three keeps its own account of quotes and of the word
that has begun. This module shows that they see the same words.

The scanners are compared while they read the same text. `InStep` says how the state of the scanner
for tokens belongs to the state of the scanner for stages, and to the state in which the scanner for
words is after the stage that is being read. One character keeps the relation, and so does a text.
A stage is read with the blanks around it that way; the blanks that are trimmed from it matter only
inside of a quote that is left open.
-/

namespace TableShell.Line

/-- A word without its quotes. -/
def unquote (word : String) : String :=
  .ofList (word.toList.filter (· != '"'))

/-- The state of the scanner for words behind a stage. -/
def scanWords (stage : List Char) : WordScan :=
  stage.foldl WordScan.step {}

/-- The words of a stage that is given with the blanks around it. -/
def rawWords (stage : List Char) : List String :=
  (scanWords stage).endWord.ended

/-- The words of a stage are those of its characters. -/
lemma words_eq_rawWords (stage : String) : words stage = rawWords stage.toList := rfl

/-! ### Single scanners -/

namespace WordScan

/-- Ending a word leaves quotes as they are. -/
lemma quoted_endWord (s : WordScan) : s.endWord.quoted = s.quoted := by
  rw [endWord]
  split <;> rfl

/-- A word is ended once. -/
lemma endWord_endWord (s : WordScan) : s.endWord.endWord = s.endWord := by
  by_cases hstarted : s.started = true <;> simp [endWord, hstarted]

/-- A quote opens a quotation or closes one. -/
lemma step_quote (s : WordScan) :
    s.step '"' = { s with quoted := !s.quoted, started := true } := rfl

/-- Outside of quotes a blank ends the word. -/
lemma step_blank_of_closed {s : WordScan} {c : Char} (hc : Text.isBlank c = true)
    (hclosed : s.quoted = false) : s.step c = s.endWord := by
  have hne : c ≠ '"' := by
    rintro rfl
    exact absurd hc (by decide)
  simp [step, hne, hc, hclosed]

/-- Any other character belongs to the word, as does every blank between quotes. -/
lemma step_other {s : WordScan} {c : Char} (hquote : c ≠ '"')
    (hgap : Text.isBlank c = true → s.quoted = true) :
    s.step c = { s with current := s.current ++ [c], started := true } := by
  have hcond : (Text.isBlank c && !s.quoted) = false := by simpa using hgap
  simp [step, hquote, hcond]

end WordScan

/-- Ending a word leaves the quotes as they are. -/
lemma TokenScan.quote?_endWord (t : TokenScan) : t.endWord.quote? = t.quote? := by
  rw [endWord]
  split <;> rfl

/-- Reading a further character of a stage is one more step. -/
lemma scanWords_concat (stage : List Char) (c : Char) :
    scanWords (stage ++ [c]) = (scanWords stage).step c := by
  simp [scanWords]

/-! ### Scanners for typed and for run lines -/

/-- How the scanner for tokens and the scanner for stages stand to each other: `done` are the tokens
of the stages that have been ended, and `last` those of the stage that is being read. -/
structure InStep (t : TokenScan) (s : StageScan) (done : List (List String)) (last : List String) :
    Prop where
  ended : t.ended = (done.map (· ++ ["|"])).flatten ++ last
  noBar : ∀ group ∈ done ++ [last], "|" ∉ group
  quoted : t.quote?.isSome = s.quoted
  /-- A bar belongs to a word only between quotes. -/
  marked : t.quote?.isSome ∨ '|' ∈ t.current → '"' ∈ t.current
  stages : s.ended.map rawWords = done.map (List.map unquote)
  closed : ∀ stage ∈ s.ended, (scanWords stage).quoted = false
  current : scanWords s.current =
    { ended := last.map unquote
      current := t.current.filter (· != '"')
      quoted := s.quoted
      started := !t.current.isEmpty }

/-- A word that has been read is not taken for a bar. -/
lemma InStep.word_ne_bar {t : TokenScan} {s : StageScan} {done : List (List String)}
    {last : List String} (h : InStep t s done last) : String.ofList t.current ≠ "|" := by
  intro heq
  have hcurrent : t.current = ['|'] := by
    rw [← String.toList_ofList (l := t.current), heq]
    rfl
  have hquote := h.marked (.inr (by simp [hcurrent]))
  simp [hcurrent] at hquote

/-! ### One character -/

section Step

variable {t : TokenScan} {s : StageScan} {done : List (List String)} {last : List String}

/-- Where a word is ended, both scanners end the same one. -/
lemma InStep.endWord (h : InStep t s done last) :
    ∃ group, t.endWord.ended = (done.map (· ++ ["|"])).flatten ++ group ∧
      (∀ g ∈ done ++ [group], "|" ∉ g) ∧ t.endWord.current = [] ∧
      (scanWords s.current).endWord = { ended := group.map unquote, quoted := s.quoted } := by
  have hdone : ∀ g ∈ done, "|" ∉ g := fun g hg => h.noBar g (by simp [hg])
  have hlast : "|" ∉ last := h.noBar last (by simp)
  cases hcurrent : t.current with
  | nil =>
    refine ⟨last, ?_, h.noBar, ?_, ?_⟩
    · simp [TokenScan.endWord, hcurrent, h.ended]
    · simp [TokenScan.endWord, hcurrent]
    · simp [h.current, WordScan.endWord, hcurrent]
  | cons c cs =>
    refine ⟨last ++ [.ofList t.current], ?_, ?_, ?_, ?_⟩
    · simp [TokenScan.endWord, hcurrent, h.ended]
    · have hword := h.word_ne_bar.symm
      simpa [hlast, hword, or_imp, forall_and] using hdone
    · simp [TokenScan.endWord, hcurrent]
    · simp [h.current, WordScan.endWord, hcurrent, unquote]

/-- A quote opens or closes in both scanners, and belongs to the word. -/
lemma InStep.take_quote (h : InStep t s done last) :
    InStep (t.take '"') (s.step '"') done last where
  ended := by simpa [TokenScan.take] using h.ended
  noBar := h.noBar
  quoted := by
    have := h.quoted
    cases hq : t.quote? <;> simp_all [TokenScan.take, StageScan.step]
  marked := by simp [TokenScan.take]
  stages := by simpa [StageScan.step] using h.stages
  closed := by simpa [StageScan.step] using h.closed
  current := by
    simp [TokenScan.take, StageScan.step, scanWords_concat, WordScan.step, h.current]

/-- A bar outside of quotes ends the word and the stage. -/
lemma InStep.take_bar (h : InStep t s done last) (hopen : s.quoted = false) :
    ∃ group, InStep (t.take '|') (s.step '|') (done ++ [group]) [] := by
  obtain ⟨group, hended, hgroups, hcurrent, hscan⟩ := h.endWord
  have hquote : t.quote? = none := by simpa [hopen] using h.quoted
  have htake : t.take '|' = { t.endWord with ended := t.endWord.ended ++ ["|"] } := by
    simp [TokenScan.take, hquote]
  have hstep : s.step '|' = { s with ended := s.ended ++ [s.current], current := [] } := by
    simp [StageScan.step, hopen]
  have hkept : t.endWord.quote? = none := by rw [t.quote?_endWord, hquote]
  rw [htake, hstep]
  refine ⟨group, ?_, ?_, ?_, ?_, ?_, ?_, ?_⟩
  · simp [hended]
  · intro g hg
    rcases List.mem_append.mp hg with hg | hg
    · exact hgroups g hg
    · simp [List.mem_singleton.mp hg]
  · simp [hkept, hopen]
  · simp [hkept, hcurrent]
  · simp [h.stages, rawWords, hscan]
  · intro stage hstage
    rcases List.mem_append.mp hstage with hstage | hstage
    · exact h.closed stage hstage
    · rw [List.mem_singleton.mp hstage, h.current, hopen]
  · simp [scanWords, hcurrent, hopen]

/-- A blank outside of quotes ends the word. -/
lemma InStep.take_gap (h : InStep t s done last) (hopen : s.quoted = false) {c : Char}
    (hc : Text.isBlank c = true) :
    ∃ group, InStep (t.take c) (s.step c) done group := by
  obtain ⟨group, hended, hgroups, hcurrent, hscan⟩ := h.endWord
  have hquote : t.quote? = none := by simpa [hopen] using h.quoted
  have hne : c ≠ '"' ∧ c ≠ '|' := by
    constructor <;> rintro rfl <;> exact absurd hc (by decide)
  have htake : t.take c = t.endWord := by
    simp [TokenScan.take, hquote, hc, hne]
  have hstep : s.step c = { s with current := s.current ++ [c] } := by
    simp [StageScan.step, hne]
  have hkept : t.endWord.quote? = none := by rw [t.quote?_endWord, hquote]
  rw [htake, hstep]
  refine ⟨group, hended, hgroups, ?_, ?_, h.stages, h.closed, ?_⟩
  · rw [hkept, hopen, Option.isSome_none]
  · simp [hkept, hcurrent]
  · have hclosed : (scanWords s.current).quoted = false := by rw [h.current, hopen]
    rw [scanWords_concat, WordScan.step_blank_of_closed hc hclosed, hscan]
    simp [hcurrent, hopen]

/-- Any other character belongs to the word, as does every character between quotes. -/
lemma InStep.take_other (h : InStep t s done last) {c : Char} (hquote : c ≠ '"')
    (hbar : c = '|' → s.quoted = true) (hgap : Text.isBlank c = true → s.quoted = true) :
    InStep (t.take c) (s.step c) done last := by
  have htake : t.take c = { t with current := t.current ++ [c] } := by
    have hq := h.quoted
    cases hopen : t.quote? <;> simp_all [TokenScan.take]
  have hstep : s.step c = { s with current := s.current ++ [c] } := by
    simp_all [StageScan.step]
  have hopen : Text.isBlank c = true → (scanWords s.current).quoted = true := by
    rw [h.current]
    exact hgap
  rw [htake, hstep]
  refine ⟨h.ended, h.noBar, h.quoted, ?_, h.stages, h.closed, ?_⟩
  · intro hmarked
    have hold : t.quote?.isSome ∨ '|' ∈ t.current := by
      rcases hmarked with hmarked | hmarked
      · exact .inl hmarked
      · rcases List.mem_append.mp hmarked with hmarked | hmarked
        · exact .inr hmarked
        · left
          rw [h.quoted]
          exact hbar (List.mem_singleton.mp hmarked).symm
    exact List.mem_append_left _ (h.marked hold)
  · rw [scanWords_concat, WordScan.step_other hquote hopen, h.current]
    simp [hquote]

end Step

/-- One character keeps the scanners in step. -/
lemma InStep.step {t : TokenScan} {s : StageScan} {done : List (List String)}
    {last : List String} (h : InStep t s done last) (c : Char) :
    ∃ done' last', InStep (t.step c) (s.step c) done' last' := by
  -- The offset is the only part of the state that the relation does not look at.
  suffices htake : ∃ done' last', InStep (t.take c) (s.step c) done' last' by
    obtain ⟨done', last', h'⟩ := htake
    exact ⟨done', last', h'.ended, h'.noBar, h'.quoted, h'.marked, h'.stages, h'.closed,
      h'.current⟩
  by_cases hquote : c = '"'
  · subst hquote
    exact ⟨done, last, h.take_quote⟩
  cases hopen : s.quoted with
  | true => exact ⟨done, last, h.take_other hquote (fun _ => hopen) (fun _ => hopen)⟩
  | false =>
    by_cases hbar : c = '|'
    · subst hbar
      obtain ⟨group, h'⟩ := h.take_bar hopen
      exact ⟨_, _, h'⟩
    by_cases hgap : Text.isBlank c = true
    · obtain ⟨group, h'⟩ := h.take_gap hopen hgap
      exact ⟨_, _, h'⟩
    · exact ⟨done, last, h.take_other hquote (fun hc => absurd hc hbar)
        (fun hc => absurd hc hgap)⟩

/-! ### A text -/

/-- Reading a further character of a text is one more step. -/
lemma scan_concat (text : List Char) (c : Char) : scan (text ++ [c]) = (scan text).step c := by
  simp [scan]

/-- The scanners are in step behind every text. -/
theorem inStep_scan (text : List Char) :
    ∃ done last, InStep (scan text) (text.foldl StageScan.step {}) done last := by
  induction text using List.reverseRecOn with
  | nil =>
    refine ⟨[], [], rfl, by simp, rfl, by simp [scan], rfl, by simp, rfl⟩
  | append_singleton text c ih =>
    obtain ⟨done, last, h⟩ := ih
    rw [scan_concat, List.foldl_append]
    exact h.step c

/-! ### Stages -/

/-- The words of every stage of a text, with their quotes. There is at least one stage. -/
def wordsByStage (text : List Char) : List (List String) :=
  (tokens text).splitOn "|"

/-- Every stage, taken with the blanks around it, has the words of the tokens between its bars. -/
theorem rawWords_rawStages (text : List Char) :
    (rawStages text).map rawWords = (wordsByStage text).map (List.map unquote) := by
  obtain ⟨done, last, h⟩ := inStep_scan text
  obtain ⟨group, hended, hgroups, -, hscan⟩ := h.endWord
  have hstages : wordsByStage text = done ++ [group] := by
    rw [wordsByStage, tokens, hended, Text.splitOn_flatten_append hgroups]
  rw [hstages, rawStages, List.map_append, List.map_append, h.stages]
  simp only [List.map_cons, List.map_nil, rawWords, hscan]

end TableShell.Line
