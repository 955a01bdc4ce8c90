import TableShell.Command.Naming
import TableShell.Line.Words
import TableShell.Proofs.Lookup
import TableShell.Proofs.Text.Trimming

/-!
# The characters of words

Cutting a line into stages and words adds no characters: what holds of all characters of a line
holds of those of its stages, and what holds of a stage holds of its words. Each scanner keeps such
a property from character to character. Replacing the first word by an alias brings in the
characters of the alias and no others.
-/

namespace TableShell.Line

variable {P : Char → Prop}

/-! ### Words -/

namespace WordScan

/-- A property of all characters that have been read into words. -/
structure Holds (P : Char → Prop) (s : WordScan) : Prop where
  ended : ∀ word ∈ s.ended, ∀ c ∈ word.toList, P c
  current : ∀ c ∈ s.current, P c

/-- Ending a word reads no character. -/
lemma Holds.endWord {s : WordScan} (h : s.Holds P) : s.endWord.Holds P := by
  unfold WordScan.endWord
  split
  · constructor
    · intro word hword
      rcases List.mem_append.mp hword with hword | hword
      · exact h.ended word hword
      · rw [List.mem_singleton.mp hword, String.toList_ofList]
        exact h.current
    · simp
  · exact h

/-- A character that has the property keeps it for all. -/
lemma Holds.step {s : WordScan} {c : Char} (h : s.Holds P) (hc : P c) : (s.step c).Holds P := by
  unfold WordScan.step
  split
  · exact ⟨h.ended, h.current⟩
  · split
    · exact h.endWord
    · refine ⟨h.ended, fun d hd => ?_⟩
      rcases List.mem_append.mp hd with hd | hd
      · exact h.current d hd
      · rw [List.mem_singleton.mp hd]
        exact hc

end WordScan

/-- The words of a stage are made of its characters. -/
theorem forall_mem_words {stage : String} (h : ∀ c ∈ stage.toList, P c) :
    ∀ word ∈ words stage, ∀ c ∈ word.toList, P c := by
  have hstart : WordScan.Holds P {} := ⟨by simp, by simp⟩
  have hend : (stage.toList.foldl WordScan.step {}).Holds P :=
    List.foldlRecOn _ _ hstart fun s hs c hc => hs.step (h c hc)
  exact hend.endWord.ended

/-! ### Stages -/

namespace StageScan

/-- A property of all characters that have been read into stages. -/
structure Holds (P : Char → Prop) (s : StageScan) : Prop where
  ended : ∀ stage ∈ s.ended, ∀ c ∈ stage, P c
  current : ∀ c ∈ s.current, P c

/-- A property of the current stage and of one more character. -/
lemma Holds.forall_mem_concat {s : StageScan} {c : Char} (h : s.Holds P) (hc : P c) :
    ∀ d ∈ s.current ++ [c], P d := by
  intro d hd
  rcases List.mem_append.mp hd with hd | hd
  · exact h.current d hd
  · rw [List.mem_singleton.mp hd]
    exact hc

/-- A character that has the property keeps it for all. -/
lemma Holds.step {s : StageScan} {c : Char} (h : s.Holds P) (hc : P c) : (s.step c).Holds P := by
  unfold StageScan.step
  split
  · exact ⟨h.ended, h.forall_mem_concat hc⟩
  · split
    · refine ⟨fun stage hstage => ?_, by simp⟩
      rcases List.mem_append.mp hstage with hstage | hstage
      · exact h.ended stage hstage
      · rw [List.mem_singleton.mp hstage]
        exact h.current
    · exact ⟨h.ended, h.forall_mem_concat hc⟩

end StageScan

/-- The stages of a line are made of its characters. -/
theorem forall_mem_stages {line : String} (h : ∀ c ∈ line.toList, P c) :
    ∀ stage ∈ stages line, ∀ c ∈ stage.toList, P c := by
  have hstart : StageScan.Holds P {} := ⟨by simp, by simp⟩
  have hend : (line.toList.foldl StageScan.step {}).Holds P :=
    List.foldlRecOn _ _ hstart fun s hs c hc => hs.step (h c hc)
  intro stage hstage c hc
  obtain ⟨raw, hraw, rfl⟩ := List.mem_map.mp hstage
  rw [String.toList_ofList] at hc
  have hmem := Text.mem_of_mem_trimChars hc
  rcases List.mem_append.mp hraw with hraw | hraw
  · exact hend.ended raw hraw c hmem
  · rw [List.mem_singleton.mp hraw] at hmem
    exact hend.current c hmem

/-! ### Aliases -/

/-- A line in which an alias is replaced is made of the characters of the line and of the
aliases. -/
theorem forall_mem_expand {aliases : Pairs} {line : String} (h : ∀ c ∈ line.toList, P c)
    (haliases : ∀ e ∈ aliases.entries, ∀ c ∈ e.2.toList, P c) :
    ∀ c ∈ (Naming.expand aliases line).toList, P c := by
  unfold Naming.expand
  dsimp only
  split
  · exact h
  · split
    · next replacement hget =>
      have hmem := mem_of_lookup_eq_some hget
      intro c hc
      rw [String.toList_append, String.toList_ofList] at hc
      rcases List.mem_append.mp hc with hc | hc
      · exact haliases _ hmem c hc
      · exact h c ((List.dropWhile_suffix _).subset (List.mem_of_mem_drop hc))
    · exact h

end TableShell.Line
