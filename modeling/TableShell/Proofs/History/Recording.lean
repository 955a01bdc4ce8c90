import TableShell.Proofs.History.Bounds
import TableShell.Proofs.History.Lines

/-!
# Recorded histories

A history that has recorded a sequence of entries keeps the newest of them, and a table of counts in
which every command stands once. `RecordedFrom` is what recording a line preserves. It is enough to
find the history again in what is written of it: the whole sequence of entries, which is never
shortened, and the table as it is.
-/

namespace TableShell.History

/-- A line that is not blank is not blank without the blanks at its end. -/
lemma isBlankText_trimEnd (line : String) :
    Text.isBlankText (Text.trimEnd line) = Text.isBlankText line := by
  obtain ⟨blanks, hblanks, hline⟩ := Text.exists_eq_trimEndChars line.toList
  have hall : blanks.all Text.isBlank = true := List.all_eq_true.mpr hblanks
  unfold Text.isBlankText Text.trimEnd
  rw [String.toList_ofList]
  conv_rhs => rw [hline, List.all_append, hall, Bool.and_true]

/-- Trimming adds no characters. -/
lemma mem_of_mem_trimEnd {line : String} {c : Char} (h : c ∈ (Text.trimEnd line).toList) :
    c ∈ line.toList := by
  obtain ⟨blanks, -, hline⟩ := Text.exists_eq_trimEndChars line.toList
  rw [Text.trimEnd, String.toList_ofList] at h
  rw [hline]
  exact List.mem_append_left _ h

/-- A history that has recorded entries. -/
structure RecordedFrom (entries : List HistoryEntry) (h : History) : Prop where
  newest : h.entries = boundEntries h.maxEntries entries
  entries_storable : ∀ e ∈ entries, e.IsStorable
  usages_storable : ∀ u ∈ h.usages, u.IsStorable
  usages_nodup : (commands h.usages).Nodup
  usages_bounded : h.usages.length ≤ h.maxEntries

namespace RecordedFrom

variable {entries : List HistoryEntry} {h : History} {line : String} {now : Int}

/-- An empty history has recorded nothing. -/
lemma empty (limit : Nat) : RecordedFrom [] { maxEntries := limit } where
  newest := List.drop_nil.symm
  entries_storable := by simp
  usages_storable := by simp
  usages_nodup := by simp [commands]
  usages_bounded := Nat.zero_le _

/-- Recording a line adds its entry. -/
theorem record (hrecorded : RecordedFrom entries h) (hlimit : 1 ≤ h.maxEntries)
    (hline : isRecorded line = true) (hfeed : '\n' ∉ line.toList) (hnow : InInteger64 now) :
    RecordedFrom (entries ++ [entryOf line now]) (h.record line now) := by
  have hnotBlank : Text.isBlankText (Text.trimEnd line) = false := by
    rw [isBlankText_trimEnd]
    simp only [isRecorded, Bool.and_eq_true, Bool.not_eq_true'] at hline
    exact hline.1
  have hcommand : '\n' ∉ (Text.trimEnd line).toList := fun h => hfeed (mem_of_mem_trimEnd h)
  have hstorable : ∀ u ∈ addUses h.usages (Text.trimEnd line) 1, u.IsStorable := by
    have hone : 1 ≤ maxWord := by decide
    refine forall_mem_addUses ⟨hcommand, hnotBlank, hone⟩ (fun u hu heq => ?_)
      hrecorded.usages_storable
    obtain ⟨hno, hnot, -⟩ := hrecorded.usages_storable u hu
    exact ⟨hno, hnot, Nat.min_le_right _ _⟩
  have hnodup := nodup_commands_addUses hrecorded.usages_nodup (Text.trimEnd line) 1
  have hsublist := boundUsages_sublist (some (Text.trimEnd line)) h.maxEntries
    (addUses h.usages (Text.trimEnd line) 1)
  rw [record_eq hrecorded.usages_bounded hline]
  constructor
  case newest => rw [hrecorded.newest, boundEntries_append]
  case entries_storable =>
    intro e he
    rcases List.mem_append.mp he with he | he
    · exact hrecorded.entries_storable e he
    · obtain rfl := List.mem_singleton.mp he
      exact ⟨hcommand, hnow⟩
  case usages_storable => exact fun u hu => hstorable u (hsublist.subset hu)
  case usages_nodup => exact (hsublist.map _).nodup hnodup
  case usages_bounded => exact length_boundUsages_le hlimit hnodup _

/-- A history is read back from what is written of it. -/
theorem ofTexts_eq (hrecorded : RecordedFrom entries h) (hpos : 1 ≤ h.maxEntries)
    (hmax : h.maxEntries ≤ 10000) :
    (ofTexts (entriesText entries) (usagesText h.usages)).withMaxEntries h.maxEntries = h := by
  have hentries := filterMap_parseEntry?_entriesText hrecorded.entries_storable
  have husages := filterMap_parseUsage?_usagesText hrecorded.usages_storable
  have hcounted : h.usages.foldl (fun usages u => addUses usages u.command u.count) [] = h.usages :=
    foldl_addUses hrecorded.usages_nodup
  have hwithin : h.usages.length ≤ 10000 := hrecorded.usages_bounded.trans hmax
  unfold ofTexts ofLines
  rw [hentries, husages, hcounted]
  simp only [withMaxEntries, bounded, Nat.max_eq_left hpos, boundUsages_eq_self none hwithin,
    boundUsages_eq_self none hrecorded.usages_bounded, boundEntries_boundEntries hmax,
    ← hrecorded.newest]

end RecordedFrom

end TableShell.History
