import TableShell.Completion.Shell
import TableShell.Proofs.Completion.Names
import TableShell.Proofs.Completion.Position
import TableShell.Proofs.Line.Classification
import TableShell.Proofs.Line.Context
import TableShell.Proofs.Text.LetterCase

/-!
# What is offered

A candidate begins with the text that it replaces, without regard to case. Files are looked up for
the name in the argument at the cursor, the items of a list for the part behind its last comma, and
everything else for the word; all of these are the text from `replaceFrom` up to the cursor.

Beyond that a candidate suits its place. The name of a filter is not offered again behind a stage
that begins with it, a column belongs to the command in front of the filters, and where a directory
is asked for nothing else is offered.
-/

namespace TableShell

/-! ### Files -/

/-- The entries that are found for a typed text begin with it, without regard to case. -/
def Sources.EntriesBegin (sources : Sources) : Prop :=
  ∀ dir typed, ∀ entry ∈ sources.entries dir typed, Text.startsFolded entry.name typed = true

/-- The files of the machine are looked up that way. -/
lemma Sources.entriesBegin_ofShell (shell : Shell) (fs : FileSystem) (base : String) :
    (Sources.ofShell shell fs base).EntriesBegin := by
  intro dir typed entry hentry
  change entry ∈ fs.pathEntries base dir typed at hentry
  unfold FileSystem.pathEntries at hentry
  generalize joinPath base (if dir.isEmpty then "." else dir) = path at hentry
  cases hnames : fs.namesOf path with
  | error err => simp [hnames] at hentry
  | ok names =>
    simp only [hnames] at hentry
    obtain ⟨name, hname, rfl⟩ := List.mem_map.mp hentry
    exact (List.mem_filter.mp (Text.mem_sortByName.mp hname)).2

/-! ### Filters -/

namespace Grammar

variable {g : Grammar} {f : FilterDef} {word : String}

/-- The filters have names in small letters of ASCII. -/
def SmallNames (g : Grammar) : Prop :=
  ∀ f ∈ g.filters, ∀ c ∈ f.name.toList, Text.IsSmallAscii c

/-- The filters of the shell have such names. -/
lemma smallNames_standard : standard.SmallNames := by
  -- Decided letter by letter: there are too many characters to decide it for each of them.
  have hall : ∀ f ∈ standard.filters,
      (f.name.toList.all fun c => decide (Text.IsSmallAscii c)) = true := by decide
  intro f hf c hc
  exact of_decide_eq_true (List.all_eq_true.mp (hall f hf) c hc)

/-- A word that names a filter has its name as lower case. -/
lemma lowercase_of_filter? (hg : g.SmallNames) (h : g.filter? word = some f) :
    Text.lowercase word = f.name := by
  obtain ⟨hmem, hsame⟩ := filter?_spec h
  exact Text.lowercase_of_sameIgnoringCase (hg f hmem) hsame

/-- The name of a filter names one. -/
lemma isFilter_name (h : f ∈ g.filters) : g.isFilter f.name = true := by
  rw [isFilter, isSome_filter?_iff]
  exact ⟨f, h, beq_self_eq_true _⟩

/-- The columns of a selection may have any meaning. -/
lemma allows_of_select (hf : f ∈ standard.filters) (hname : f.name = "select") {spec : ArgSpec}
    (hspec : spec ∈ f.args) (t : FieldType) : spec.allows t = true := by
  have hall : ∀ f ∈ standard.filters, f.name = "select" → ∀ spec ∈ f.args,
      spec.allowed = none := by decide
  rw [ArgSpec.allows, hall f hf hname spec hspec]

end Grammar

/-! ### Contexts -/

namespace Context

variable {g : Grammar} {line : String} {cursor : Nat} {c : Context}

/-- Where arguments of a filter are typed, the filter is one of the grammar. -/
lemma IsRole.mem_filters {begun later : Bool} {words args : List String} {f : FilterDef}
    (h : IsRole g begun later words (.filterArgument f args)) : f ∈ g.filters := by
  cases h with
  | filterArgument name args f isFilter => exact (Grammar.filter?_spec isFilter).1

/-- The filter of a context is one of the grammar. -/
lemma mem_filters_of_parse {filter : FilterDef} {done : List String}
    (h : parse g line cursor = .ok c) (hrole : c.role = .filterArgument filter done) :
    filter ∈ g.filters := by
  have hplace := isRole_of_parse h
  rw [hrole] at hplace
  exact hplace.mem_filters

/-- A filter that an earlier stage begins with counts as used. -/
lemma mem_used_of_parse {stage : List String} {word : String} {f : FilterDef}
    (hg : g.SmallNames) (h : parse g line cursor = .ok c)
    (hstage : stage ∈ earlierStages (Text.beforeByte cursor line.toList))
    (hword : stage.head? = some word) (hf : g.filter? word = some f) : f.name ∈ c.used := by
  rw [used_of_parse h, List.mem_filter]
  refine ⟨List.mem_map.mpr ⟨word, ?_, Grammar.lowercase_of_filter? hg hf⟩,
    Grammar.isFilter_name (Grammar.filter?_spec hf).1⟩
  exact List.mem_filterMap.mpr ⟨stage, hstage, hword⟩

end Context

namespace Suggester

variable {s : Suggester} {c : Context} {line name : String} {cursor : Nat}

/-! ### Columns -/

/-- A name is that of a column of the command in front of the filters, with a meaning that is
allowed. -/
def IsColumn (s : Suggester) (c : Context) (allows : FieldType → Bool) (name : String) : Prop :=
  ∃ source field, s.grammar.source? c.source = some source ∧ field ∈ source.fields ∧
    field.name = name ∧ allows field.type = true

/-- The names of columns that are gathered for a context are those of its command, with a meaning
that is allowed. -/
lemma isColumn_of_mem_fieldNames {allows : FieldType → Bool} (h : name ∈ s.fieldNames c allows) :
    s.IsColumn c allows name := by
  unfold fieldNames at h
  split at h
  · next source hsource =>
    obtain ⟨field, hfield, rfl⟩ := List.mem_map.mp h
    obtain ⟨hmem, hallows⟩ := List.mem_filter.mp hfield
    exact ⟨source, field, hsource, hmem, rfl, hallows⟩
  · exact absurd h (by simp)

/-- What is offered for a list of columns is a column that the list does not have yet. -/
lemma mem_selectable {start : Nat} (h : name ∈ (s.selectable c start).candidates) :
    s.IsColumn c (fun _ => true) name ∧
      ∀ argument ∈ c.filterArgs ++ [.ofList (splitItems c.word.toList).1],
        Text.lowercase name ∉ listedItems argument := by
  obtain ⟨hmem, hfresh⟩ := List.mem_filter.mp (mem_beginning.mp h).1
  refine ⟨isColumn_of_mem_fieldNames hmem, fun argument hargument hlisted => ?_⟩
  have hall := List.mem_flatten.mpr ⟨_, List.mem_map_of_mem hargument, hlisted⟩
  simp only [Bool.not_eq_true', List.contains_eq_mem, decide_eq_false_iff_not] at hfresh
  exact hfresh hall

/-! ### Candidates begin with what is typed -/

/-- The files that are found begin with the word, which is the name in the argument. -/
lemma startsFolded_of_mem_pathEntries {entry : PathEntry} (hentries : s.sources.EntriesBegin)
    (hname : (Context.splitPath c.argument.toList).2 = c.word.toList)
    (h : entry ∈ s.pathEntries c) : Text.startsFolded entry.name c.word = true := by
  have hbegins : Text.startsFolded entry.name
      (.ofList (Context.splitPath c.argument.toList).2) = true := hentries _ _ entry h
  rwa [hname, String.ofList_toList] at hbegins

/-- The names that are offered for a command begin with the word, in any case. -/
lemma startsFolded_of_mem_commandNames (hentries : s.sources.EntriesBegin)
    (hname : (Context.splitPath c.argument.toList).2 = c.word.toList)
    (h : name ∈ s.commandNames c) : Text.startsFolded name c.word = true := by
  rcases List.mem_append.mp (mem_unique.mp h) with h | h
  · exact (mem_beginning.mp h).2
  · obtain ⟨entry, hentry, rfl⟩ := List.mem_map.mp h
    exact startsFolded_of_mem_pathEntries hentries hname hentry

/-- The names that are offered for an argument of a command begin with the word, in any case. -/
lemma startsFolded_of_mem_argumentNames {kind : ArgumentType} (hentries : s.sources.EntriesBegin)
    (hname : (Context.splitPath c.argument.toList).2 = c.word.toList)
    (h : name ∈ s.argumentNames c kind) : Text.startsFolded name c.word = true := by
  have hpath : ∀ entries ⊆ s.pathEntries c, name ∈ entries.map PathEntry.name →
      Text.startsFolded name c.word = true := by
    intro entries hsubset hmem
    obtain ⟨entry, hentry, rfl⟩ := List.mem_map.mp hmem
    exact startsFolded_of_mem_pathEntries hentries hname (hsubset hentry)
  cases kind with
  | directory => exact hpath _ (List.filter_subset_self _) h
  | file =>
    refine hpath _ ?_ h
    split
    · exact List.Subset.refl _
    · exact List.filter_subset_self _
  | both => exact hpath _ (List.Subset.refl _) h
  | any => exact hpath _ (List.Subset.refl _) h
  | bookmarkName => exact (mem_beginning.mp h).2
  | aliasName => exact (mem_beginning.mp h).2
  | subcommand => exact (mem_beginning.mp h).2
  | text => exact absurd h (by simp [argumentNames])

/-- A candidate begins with the part of the word that it replaces. -/
lemma startsFolded_of_mem_candidatesIn (hentries : s.sources.EntriesBegin)
    (hname : (Context.splitPath c.argument.toList).2 = c.word.toList)
    (h : name ∈ (s.candidatesIn c cursor).candidates) :
    Text.startsFolded name (.ofList (wordParts c).2) = true := by
  unfold candidatesIn at h
  unfold wordParts
  cases hrole : c.role with
  | filterArgument filter done =>
    simp only [hrole, filterArgument] at h ⊢
    split at h
    · next hselect =>
      rw [if_pos hselect]
      exact (mem_beginning.mp h).2
    · next hselect =>
      rw [if_neg hselect, String.ofList_toList]
      split at h
      · exact (mem_beginning.mp h).2
      · exact absurd h (by simp)
  | command =>
    rw [hrole] at h
    rw [String.ofList_toList]
    exact startsFolded_of_mem_commandNames hentries hname h
  | argument done =>
    rw [hrole] at h
    rw [String.ofList_toList]
    exact startsFolded_of_mem_argumentNames hentries hname h
  | filterName begun =>
    rw [hrole] at h
    rw [String.ofList_toList]
    exact (mem_beginning.mp h).2
  | unknown done =>
    rw [hrole] at h
    exact absurd h (by simp)

end Suggester

end TableShell
