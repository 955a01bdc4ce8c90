import TableShell.History
import TableShell.Proofs.Number.Decimal
import TableShell.Proofs.Text.Boundary
import TableShell.Proofs.Text.Lines
import TableShell.Proofs.Text.Trimming

/-!
# Written histories

The lines of a log and of a table of counts are read as the entries and counts that they were
written for. A command can hold bars: the number behind the last bar holds none, so the line is cut
where the number was put. It cannot hold a line feed, which would cut the line in two.
-/

namespace TableShell

/-- An entry that can be written to a log and read back. -/
structure HistoryEntry.IsStorable (e : HistoryEntry) : Prop where
  no_feed : '\n' ∉ e.command.toList
  in_range : InInteger64 e.timestamp

/-- A count that can be written to a table and read back. -/
structure Usage.IsStorable (u : Usage) : Prop where
  no_feed : '\n' ∉ u.command.toList
  not_blank : Text.isBlankText u.command = false
  in_range : u.count ≤ maxWord

namespace History

/-- A command and a number as they stand in a line. -/
def barred (command number : List Char) : List Char :=
  command ++ '|' :: number

section

variable {command number : List Char} (hnumber : ∀ c ∈ number, isNumeral c = true)
include hnumber

/-- A line is cut in front of its number. -/
lemma cutLast_barred (command : List Char) :
    Text.cutLast '|' (barred command number) = some (command, number) := by
  refine Text.cutLastWhere_append_cons command (by decide) fun c hc => ?_
  exact beq_false_of_ne (ne_bar_of_isNumeral (hnumber c hc))

/-- A line with a number behind it is one line of a file if it was one before. -/
lemma isLine_barred (hcommand : '\n' ∉ command) : Text.IsLine (barred command number) where
  no_feed h := by
    rcases List.mem_append.mp h with h | h
    · exact hcommand h
    · rcases List.mem_cons.mp h with h | h
      · exact absurd h (by decide)
      · exact absurd (hnumber _ h) (by decide)
  no_return h := by
    have hmem : '\r' ∈ '|' :: number := by
      rw [barred, List.getLast?_append_cons] at h
      exact List.mem_of_getLast? h
    rcases List.mem_cons.mp hmem with h | h
    · exact absurd h (by decide)
    · exact absurd (hnumber _ h) (by decide)

/-- A number has no blanks around it. -/
lemma trimChars_number : Text.trimChars number = number :=
  Text.trimChars_eq_self fun c hc => isBlank_of_isNumeral (hnumber c hc)

end

/-! ### The log -/

/-- The text of a log. -/
def entriesText (entries : List HistoryEntry) : String :=
  "".intercalate (entries.map entryLine)

/-- A log is extended by a line. -/
lemma entriesText_append (entries : List HistoryEntry) (e : HistoryEntry) :
    entriesText (entries ++ [e]) = entriesText entries ++ entryLine e := by
  rw [← String.toList_inj, String.toList_append]
  unfold entriesText
  rw [Text.toList_intercalate_empty, Text.toList_intercalate_empty]
  simp only [List.map_append, List.flatten_append, List.map_cons, List.map_nil,
    List.flatten_cons, List.flatten_nil, List.append_nil]

/-- An entry of the log is read back from its line. -/
lemma parseEntry?_barred {e : HistoryEntry} (h : e.IsStorable) :
    parseEntry? (.ofList (barred e.command.toList (toString e.timestamp).toList)) = some e := by
  have hnumber : ∀ c ∈ (toString e.timestamp).toList, isNumeral c = true :=
    fun c hc => isNumeral_of_mem_toString hc
  have hblank : Text.isBlankText
      (.ofList (barred e.command.toList (toString e.timestamp).toList)) = false := by
    have hbar : Text.isBlank '|' = false := by decide
    rw [Text.isBlankText, String.toList_ofList, barred, List.all_append, List.all_cons, hbar,
      Bool.false_and, Bool.and_false]
  unfold parseEntry?
  rw [hblank, String.toList_ofList, cutLast_barred hnumber]
  simp only [Bool.false_eq_true, if_false, Option.bind_some, trimChars_number hnumber,
    String.ofList_toList, readInteger?_toString h.in_range, Option.map_some, Option.getD_some]

/-- A log is read as the entries that it was written for. -/
theorem filterMap_parseEntry?_entriesText {entries : List HistoryEntry}
    (h : ∀ e ∈ entries, e.IsStorable) :
    (Text.lines (entriesText entries)).filterMap parseEntry? = entries := by
  refine Text.filterMap_lines_intercalate
    (fun e => ?_) (fun e he => isLine_barred (fun c hc => isNumeral_of_mem_toString hc)
      (h e he).no_feed) fun e he => parseEntry?_barred (h e he)
  simp [entryLine, barred]

/-! ### The table of counts -/

/-- An entry of the table is read back from its line. -/
lemma parseUsage?_barred {u : Usage} (h : u.IsStorable) :
    parseUsage? (.ofList (barred u.command.toList u.count.repr.toList)) = some u := by
  have hnumber : ∀ c ∈ u.count.repr.toList, isNumeral c = true :=
    fun c hc => isNumeral_of_mem_repr hc
  have hblank : u.command.toList.all Text.isBlank = false := h.not_blank
  unfold parseUsage?
  rw [String.toList_ofList, cutLast_barred hnumber]
  simp only [Option.bind_some, trimChars_number hnumber, String.ofList_toList,
    readWord?_repr h.in_range, hblank, Bool.false_eq_true, if_false]

/-- A table is read as the counts that it was written for. -/
theorem filterMap_parseUsage?_usagesText {usages : List Usage} (h : ∀ u ∈ usages, u.IsStorable) :
    (Text.lines (usagesText usages)).filterMap parseUsage? = usages := by
  refine Text.filterMap_lines_intercalate
    (fun u => ?_) (fun u hu => isLine_barred (fun c hc => isNumeral_of_mem_repr hc)
      (h u hu).no_feed) fun u hu => parseUsage?_barred (h u hu)
  simp [usageLine, barred]

end History

end TableShell
