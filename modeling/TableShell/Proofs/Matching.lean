import TableShell.Completion.Shell
import TableShell.Proofs.Filter.Results
import TableShell.Proofs.Text.FinalSigma

/-!
# What is matched without regard to case

The filter `contains` and the completion of names compare lower-case forms, each made on its own. A
text that holds what is looked for as it is written is nevertheless passed over where a sigma is
final in one of the two texts and not in the other: the name `ΟΔΟΣ.txt` is not offered for `ΟΔΟΣ`,
and a cell `ΟΔΟΣ` does not contain `Σ`.
-/

namespace TableShell

open Text

namespace Filter

variable {t : Table} {field : String} {words : List String} {col : Nat} {row : Row} {cell : Cell}
  {s : String} {needle : List Char}

/-- What the filter `contains` results in. -/
lemma process_contains (hcol : t.column? field = some col) (hwords : words ≠ []) :
    contains.process t (field :: words) =
      .ok (t.keep (textContains (lowerChars (" ".intercalate words).toList) col)) := by
  obtain ⟨first, more, rfl⟩ := List.exists_cons_of_ne_nil hwords
  change applyContains t (field :: first :: more) = _
  rw [applyContains, Table.requireColumn_of_column? hcol]
  rfl

/-- A cell contains a text exactly if the text stands somewhere in it in lower case. -/
lemma textContains_iff (hcell : row[col]? = some cell) (hvalue : cell.value = .text s) :
    textContains (lowerChars needle) col row = true ↔ ∃ n, StandsAt needle s.toList n := by
  obtain ⟨value, highlighted⟩ := cell
  obtain rfl : value = .text s := hvalue
  rw [textContains, hcell]
  exact occursIn_lowerChars_iff

end Filter

/-- The entries found in a directory that can be read are its names that begin with what is
typed. -/
lemma FileSystem.exists_mem_pathEntries_iff {fs : FileSystem} {base dir typed name : String}
    {names : List String}
    (hnames : fs.namesOf (joinPath base (if dir.isEmpty then "." else dir)) = .ok names) :
    (∃ entry ∈ fs.pathEntries base dir typed, entry.name = name) ↔
      name ∈ names ∧ startsFolded name typed = true := by
  unfold FileSystem.pathEntries
  generalize joinPath base (if dir.isEmpty then "." else dir) = path at hnames
  simp only [hnames]
  constructor
  · rintro ⟨entry, hentry, rfl⟩
    obtain ⟨name, hname, rfl⟩ := List.mem_map.mp hentry
    exact List.mem_filter.mp (mem_sortByName.mp hname)
  · intro h
    exact ⟨_, List.mem_map_of_mem (mem_sortByName.mpr (List.mem_filter.mpr h)), rfl⟩

/-- The filter `contains` keeps a row exactly if the text that is sought stands somewhere in its
cell when both are in lower case. Where the cell holds the text as it is written, that is such a
place exactly if every sigma of the text is final in the cell as it is in the text. A name that
begins with the text as it is written passes for completion, and is found in its directory, exactly
if the text does not end in a final sigma that is followed by a cased character in the name. A text
without a capital sigma is found wherever it is written. -/
theorem Text.verbatim_matches (sought : String) :
    (∀ (t : Table) (field : String) (words : List String) (col : Nat),
      t.column? field = some col → words ≠ [] → " ".intercalate words = sought →
        ∃ keeps : Row → Bool, Filter.contains.process t (field :: words) = .ok (t.keep keeps) ∧
          ∀ (row : Row) (cell : Cell) (s : String),
            row[col]? = some cell → cell.value = .text s →
            (keeps row = true ↔ ∃ n, StandsAt sought.toList s.toList n) ∧
              ∀ a b : List Char, s.toList = a ++ sought.toList ++ b →
                (StandsAt sought.toList s.toList (lowerChars a).length ↔
                  keepsSigmas a sought.toList b = true)) ∧
      (∀ (name : String) (rest : List Char), name.toList = sought.toList ++ rest →
        (startsFolded name sought = true ↔
          ¬(endsInFinalSigma sought.toList = true ∧ beginsCased rest = true))) ∧
      (∀ (fs : FileSystem) (base dir : String) (names : List String),
        fs.namesOf (joinPath base (if dir.isEmpty then "." else dir)) = .ok names →
        ∀ name ∈ names, ∀ rest : List Char, name.toList = sought.toList ++ rest →
          ((∃ entry ∈ fs.pathEntries base dir sought, entry.name = name) ↔
            ¬(endsInFinalSigma sought.toList = true ∧ beginsCased rest = true))) ∧
      ('Σ' ∉ sought.toList → ∀ a b : List Char, keepsSigmas a sought.toList b = true) := by
  refine ⟨?_, ?_, ?_, ?_⟩
  · intro t field words col hcol hwords hsought
    refine ⟨_, Filter.process_contains hcol hwords, ?_⟩
    intro row cell s hcell hvalue
    rw [hsought]
    refine ⟨Filter.textContains_iff hcell hvalue, ?_⟩
    intro a b hs
    rw [hs]
    exact standsAt_iff
  · intro name rest hname
    exact startsFolded_iff_of_append hname
  · intro fs base dir names hnames name hmem rest hname
    rw [FileSystem.exists_mem_pathEntries_iff hnames, startsFolded_iff_of_append hname]
    exact and_iff_right hmem
  · intro hsigma a b
    exact keepsSigmas_of_notMem a b hsigma

/-! ### Sigmas that are kept, and others -/

/-- A table with one column of texts. -/
def Table.ofNames (names : List String) : Table where
  headers := ["Name"]
  rows := names.map fun name => [{ value := .text name }]

/-- A tree with one file. -/
def FileSystem.withFile (name : String) : FileSystem where
  entries := [([name], { node := .file (.text "") })]

/-- The name of that file is all that is listed. -/
lemma FileSystem.namesOf_withFile (name : String)
    (h : (FileSystem.withFile name).resolve "/." true = .ok .root) :
    (FileSystem.withFile name).namesOf "/." = .ok [name] := by
  have hsorted : (FileSystem.withFile name).namesIn [] = [name] := List.mergeSort_singleton name
  rw [FileSystem.namesOf, h, ← hsorted]
  rfl

/-- In particular `ΟΔΟΣ` is found where a blank follows it. -/
theorem Text.verbatim_matches_before_blank :
    (Table.ofNames ["ΟΔΟΣ 1"]).column? "Name" = some 0 ∧
      (∃ keeps : Row → Bool,
        Filter.contains.process (Table.ofNames ["ΟΔΟΣ 1"]) ["Name", "ΟΔΟΣ"] =
            .ok ((Table.ofNames ["ΟΔΟΣ 1"]).keep keeps) ∧
          keeps [{ value := .text "ΟΔΟΣ 1" }] = true) ∧
      startsFolded "ΟΔΟΣ 1" "ΟΔΟΣ" = true ∧
      (FileSystem.withFile "ΟΔΟΣ 1").namesOf "/." = .ok ["ΟΔΟΣ 1"] ∧
      ∃ entry ∈ (FileSystem.withFile "ΟΔΟΣ 1").pathEntries "/" "" "ΟΔΟΣ",
        entry.name = "ΟΔΟΣ 1" := by
  have hcolumn : (Table.ofNames ["ΟΔΟΣ 1"]).column? "Name" = some 0 := by decide
  have htext : "ΟΔΟΣ 1".toList = "ΟΔΟΣ".toList ++ [' ', '1'] := by decide
  have hsigmas : keepsSigmas [] "ΟΔΟΣ".toList [' ', '1'] = true := by decide +kernel
  have hnames : (FileSystem.withFile "ΟΔΟΣ 1").namesOf "/." = .ok ["ΟΔΟΣ 1"] :=
    FileSystem.namesOf_withFile _ (by decide +kernel)
  obtain ⟨hrows, hstarts, hentries, -⟩ := Text.verbatim_matches "ΟΔΟΣ"
  obtain ⟨keeps, hprocess, hkeeps⟩ :=
    hrows _ "Name" ["ΟΔΟΣ"] 0 hcolumn (List.cons_ne_nil _ _) (by decide)
  refine ⟨hcolumn, ⟨keeps, hprocess, ?_⟩, ?_, hnames, ?_⟩
  · obtain ⟨hkept, hplaces⟩ := hkeeps [{ value := .text "ΟΔΟΣ 1" }] _ _ rfl rfl
    exact hkept.mpr ⟨_, (hplaces [] [' ', '1'] htext).mpr hsigmas⟩
  · exact (hstarts _ _ htext).mpr (keepsSigmas_nil_iff.mp hsigmas)
  · exact (hentries _ "/" "" _ hnames _ (List.mem_singleton_self _) _ htext).mpr
      (keepsSigmas_nil_iff.mp hsigmas)

/-- Before an extension, and as a text of its own, a sigma is not what it is in the name. -/
theorem Text.verbatim_is_passed_over :
    contains "ΟΔΟΣ.txt" "ΟΔΟΣ" = true ∧
      Filter.contains.process (Table.ofNames ["ΟΔΟΣ.txt", "ΟΔΟΣ"]) ["Name", "ΟΔΟΣ"] =
        .ok (Table.ofNames ["ΟΔΟΣ"]) ∧
      contains "ΟΔΟΣ" "Σ" = true ∧
      Filter.contains.process (Table.ofNames ["ΟΔΟΣ"]) ["Name", "Σ"] = .ok (Table.ofNames []) ∧
      startsWith "ΟΔΟΣ.txt" "ΟΔΟΣ" = true ∧ startsFolded "ΟΔΟΣ.txt" "ΟΔΟΣ" = false ∧
      (FileSystem.withFile "ΟΔΟΣ.txt").namesOf "/." = .ok ["ΟΔΟΣ.txt"] ∧
      (FileSystem.withFile "ΟΔΟΣ.txt").pathEntries "/" "" "ΟΔΟΣ" = [] := by
  have hfirst : Filter.contains.process (Table.ofNames ["ΟΔΟΣ.txt", "ΟΔΟΣ"]) ["Name", "ΟΔΟΣ"] =
        .ok (Table.ofNames ["ΟΔΟΣ"]) := by
    rw [Filter.process_contains (by decide : _ = some 0) (by decide)]
    exact congrArg Except.ok (by decide +kernel)
  refine ⟨by decide +kernel, hfirst, by decide +kernel, ?_, by decide +kernel, by decide +kernel,
    FileSystem.namesOf_withFile _ (by decide +kernel), by decide +kernel⟩
  rw [Filter.process_contains (by decide : _ = some 0) (by decide)]
  exact congrArg Except.ok (by decide +kernel)

end TableShell
