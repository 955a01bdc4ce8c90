import TableShell.Pairs
import TableShell.Proofs.Text.Boundary
import TableShell.Proofs.Text.Lines
import TableShell.Proofs.Text.Trimming

/-!
# Written pairs

A pair is written as a line `name=value`. The line is read as that pair exactly if the pair is
storable: the name holds something and no equals sign, name and value have no blanks at their ends,
and neither holds a line feed. What is read from any text is storable, since reading cuts at line
feeds and at the first equals sign, trims, and skips what has no name. So a list of pairs comes back
from its text exactly if all of its pairs are storable.
-/

namespace TableShell.Pairs

/-- A name that is read back from a file as it is, whatever its value. -/
structure IsStorableName (name : List Char) : Prop where
  named : name ≠ []
  no_equals : '=' ∉ name
  no_feed : '\n' ∉ name
  trimmed : Text.trimChars name = name

/-- A value that is read back from a file as it is. -/
structure IsStorableValue (value : List Char) : Prop where
  no_feed : '\n' ∉ value
  trimmed : Text.trimChars value = value

/-- A pair that can be written to a file and read back. -/
structure IsStorable (e : String × String) : Prop where
  name : IsStorableName e.1.toList
  value : IsStorableValue e.2.toList

/-! ### Lines that are written -/

/-- A pair as it stands in a line. -/
def written (e : String × String) : List Char :=
  e.1.toList ++ '=' :: e.2.toList

/-- The end of a line is the end of the value or the equals sign. -/
lemma getLast?_written_ne {e : String × String} (h : IsStorableValue e.2.toList) :
    (written e).getLast? ≠ some '\r' := by
  unfold written
  rw [List.getLast?_append_cons]
  cases hvalue : e.2.toList with
  | nil => simp
  | cons c cs =>
    rw [List.getLast?_cons_cons, ← hvalue]
    intro hreturn
    rw [← h.trimmed] at hreturn
    have hblank := Text.isBlank_of_mem_getLast?_trimChars hreturn
    exact absurd hblank (by decide)

/-- A storable pair is written as one line. -/
lemma isLine_written {e : String × String} (h : IsStorable e) : Text.IsLine (written e) where
  no_feed hfeed := by
    rcases List.mem_append.mp hfeed with hname | hrest
    · exact h.name.no_feed hname
    · rcases List.mem_cons.mp hrest with heq | hvalue
      · exact absurd heq (by decide)
      · exact h.value.no_feed hvalue
  no_return := getLast?_written_ne h.value

/-- A storable pair is read back from its line. -/
lemma parseLine?_written {e : String × String} (h : IsStorable e) :
    parseLine? (.ofList (written e)) = some e := by
  have hname : e.1.toList.isEmpty = false := List.isEmpty_eq_false_iff.mpr h.name.named
  unfold parseLine? written
  rw [String.toList_ofList, Text.cutFirst_append_cons h.name.no_equals]
  simp only [Option.bind_some, h.name.trimmed, hname, Bool.false_eq_true, if_false,
    h.value.trimmed, String.ofList_toList]

/-- Pairs that are storable are read back from their text. -/
theorem parse_text {entries : List (String × String)} (h : ∀ e ∈ entries, IsStorable e) :
    parse (text entries) = entries := by
  refine Text.filterMap_lines_intercalate
    (fun e => ?_) (fun e he => isLine_written (h e he)) fun e he => parseLine?_written (h e he)
  simp [written]

/-! ### Lines that are read -/

/-- Trimming makes a value storable. -/
lemma isStorableValue_trimChars {value : List Char} (h : '\n' ∉ value) :
    IsStorableValue (Text.trimChars value) where
  no_feed hfeed := h (Text.mem_of_mem_trimChars hfeed)
  trimmed := Text.trimChars_trimChars value

/-- Trimming makes a name storable, if something is left of it. -/
lemma isStorableName_trimChars {name : List Char} (hfeed : '\n' ∉ name) (hequals : '=' ∉ name)
    (hnamed : Text.trimChars name ≠ []) : IsStorableName (Text.trimChars name) where
  named := hnamed
  no_equals h := hequals (Text.mem_of_mem_trimChars h)
  no_feed h := hfeed (Text.mem_of_mem_trimChars h)
  trimmed := Text.trimChars_trimChars name

/-- A pair that is read from a line is storable. -/
lemma isStorable_of_parseLine? {line : String} {e : String × String} (hfeed : '\n' ∉ line.toList)
    (h : parseLine? line = some e) : IsStorable e := by
  obtain ⟨⟨name, value⟩, hcut, h⟩ := Option.bind_eq_some_iff.mp h
  obtain ⟨hline, hequals⟩ := Text.cutFirst_eq_some.mp hcut
  have hname : '\n' ∉ name := fun hmem => hfeed (hline ▸ List.mem_append_left _ hmem)
  have hvalue : '\n' ∉ value := by
    intro hmem
    rw [hline] at hfeed
    exact hfeed (List.mem_append_right _ (List.mem_cons_of_mem _ hmem))
  simp only [Option.ite_none_left_eq_some, List.isEmpty_iff] at h
  obtain ⟨hnamed, h⟩ := h
  obtain rfl := Option.some.inj h
  constructor
  · rw [String.toList_ofList]
    exact isStorableName_trimChars hname hequals hnamed
  · rw [String.toList_ofList]
    exact isStorableValue_trimChars hvalue

/-- What is read from a text is storable. -/
theorem isStorable_of_mem_parse {text : String} {e : String × String} (h : e ∈ parse text) :
    IsStorable e := by
  obtain ⟨line, hline, he⟩ := List.mem_filterMap.mp h
  exact isStorable_of_parseLine? (Text.notMem_of_mem_lines hline) he

/-- A list of pairs is read back from its text exactly if its pairs are storable. -/
theorem parse_text_eq_self_iff {entries : List (String × String)} :
    parse (text entries) = entries ↔ ∀ e ∈ entries, IsStorable e := by
  constructor
  · intro h e he
    rw [← h] at he
    exact isStorable_of_mem_parse he
  · exact parse_text

end TableShell.Pairs
