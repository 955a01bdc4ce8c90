import TableShell.Proofs.Completion.Candidates

/-!
# Sound completions

What holds of a completion wherever the context of the cursor can be told, whatever the names are
that it draws on. The part of the line that it replaces ends at the cursor, every candidate begins
with that part, and every candidate suits its place.

What has been named or listed before is taken from the words as they are typed. A filter that an
earlier stage names between quotes is offered again, and so is a column that is listed between
quotes or in front of a path separator. The first stage of a line names a command, never a filter.
-/

namespace TableShell

/-- What a completion at a cursor satisfies, given the context there. -/
structure Completion.Suits (completion : Completion) (s : Suggester) (c : Context) (line : String)
    (cursor : Nat) : Prop where
  boundary_replaceFrom : Text.Boundary completion.replaceFrom line.toList
  replaceFrom_le : completion.replaceFrom ≤ Text.clampByte cursor line.toList
  /-- The lower-case form of a candidate begins with that of the text it replaces. -/
  begins : ∀ name ∈ completion.candidates,
    Text.startsFolded name
      (Text.sliceBytes completion.replaceFrom (Text.clampByte cursor line.toList) line) = true
  /-- A filter is not offered again behind a stage whose first word names it. -/
  unused : c.isFilterName = true →
    ∀ stage ∈ Context.earlierStages (Text.beforeByte cursor line.toList), ∀ word f,
      stage.head? = some word → s.grammar.filter? word = some f →
        f.name ∉ completion.candidates
  /-- Where a column is asked for, only those that are allowed there are offered. -/
  columns : ∀ filter done spec, c.role = .filterArgument filter done →
    filter.args[done.length]? = some spec → spec.kind = .field →
      ∀ name ∈ completion.candidates, s.IsColumn c spec.allows name
  /-- A selection is offered the columns that its arguments and the word do not list yet. -/
  selected : ∀ filter done, c.role = .filterArgument filter done → filter.name = "select" →
    ∀ name ∈ completion.candidates, s.IsColumn c (fun _ => true) name ∧
      ∀ argument ∈ done ++ [.ofList (Suggester.splitItems c.word.toList).1],
        Text.lowercase name ∉ Suggester.listedItems argument
  /-- Where a directory is asked for, only directories are offered. -/
  directories : ∀ done, c.role = .argument done →
    s.grammar.argumentAfter c.command done = .directory →
      ∀ name ∈ completion.candidates,
        ∃ entry ∈ s.pathEntries c, entry.name = name ∧ entry.isDirectory = true

namespace Suggester

variable {s : Suggester} {c : Context} {line name : String} {cursor : Nat} {filter : FilterDef}
  {done : List String}

/-! ### Single places -/

/-- A filter that is offered has not been used. -/
lemma notMem_used_of_mem_candidatesIn (hplace : c.isFilterName = true)
    (h : name ∈ (s.candidatesIn c cursor).candidates) : name ∉ c.used := by
  unfold Context.isFilterName at hplace
  cases hrole : c.role with
  | filterName begun =>
    rw [candidatesIn, hrole] at h
    have hunused := (List.mem_filter.mp (mem_beginning.mp h).1).2
    simpa using hunused
  | _ =>
    rw [hrole] at hplace
    exact absurd hplace (by simp)

/-- What is offered to a selection is what can be added to its list. -/
lemma candidatesIn_of_select (hrole : c.role = .filterArgument filter done)
    (hname : filter.name = "select") (cursor : Nat) :
    s.candidatesIn c cursor = s.selectable c (c.wordStart cursor) := by
  simp [candidatesIn, hrole, filterArgument, hname]

/-- Where a filter takes a column, the columns that it allows there are offered. -/
lemma isColumn_of_mem_candidatesIn {spec : ArgSpec} (hgrammar : s.grammar = .standard)
    (hfilter : filter ∈ s.grammar.filters) (hrole : c.role = .filterArgument filter done)
    (hspec : filter.args[done.length]? = some spec) (hkind : spec.kind = .field)
    (h : name ∈ (s.candidatesIn c cursor).candidates) : s.IsColumn c spec.allows name := by
  by_cases hselect : filter.name = "select"
  · rw [candidatesIn_of_select hrole hselect] at h
    obtain ⟨source, field, hsource, hfield, hnamed, -⟩ := (mem_selectable h).1
    rw [hgrammar] at hfilter
    have hallows : spec.allows field.type = true :=
      Grammar.allows_of_select hfilter hselect (List.mem_of_getElem? hspec) field.type
    exact ⟨source, field, hsource, hfield, hnamed, hallows⟩
  · simp only [candidatesIn, hrole, filterArgument, beq_iff_eq, hselect, if_false, hspec,
      argumentValues, hkind] at h
    exact isColumn_of_mem_fieldNames (mem_beginning.mp h).1

/-- Where a directory is asked for, the candidates are directories that have been found. -/
lemma exists_directory_of_mem_candidatesIn (hrole : c.role = .argument done)
    (hkind : s.grammar.argumentAfter c.command done = .directory)
    (h : name ∈ (s.candidatesIn c cursor).candidates) :
    ∃ entry ∈ s.pathEntries c, entry.name = name ∧ entry.isDirectory = true := by
  simp only [candidatesIn, hrole, hkind, argumentNames] at h
  obtain ⟨entry, hentry, rfl⟩ := List.mem_map.mp h
  obtain ⟨hmem, hdirectory⟩ := List.mem_filter.mp hentry
  exact ⟨entry, hmem, rfl, hdirectory⟩

/-! ### All places -/

/-- Where the context of a cursor can be told there is a completion, and it suits the context. -/
theorem exists_suiting_completion (hgrammar : s.grammar = .standard)
    (hentries : s.sources.EntriesBegin) (hc : Context.parse s.grammar line cursor = .ok c) :
    ∃ completion, s.complete line cursor = .ok completion ∧
      completion.Suits s c line cursor := by
  obtain ⟨head, hbefore, hhead⟩ := exists_replaced_candidatesIn s hc
  have hname := Context.splitPath_of_parse hc
  refine ⟨_, complete_eq_ok hc, ?_, ?_, ?_, ?_, ?_, ?_, ?_⟩
  · rw [← hhead]
    exact Text.boundary_of_beforeByte hbefore
  · rw [← hhead, Text.clampByte, hbefore, Text.byteLength_append]
    exact Nat.le_add_right _ _
  · intro name hoffered
    rw [← hhead, Text.sliceBytes_of_beforeByte hbefore]
    exact startsFolded_of_mem_candidatesIn hentries hname hoffered
  · intro hplace stage hstage word f hfirst hfilter hoffered
    have hsmall : s.grammar.SmallNames := by
      rw [hgrammar]
      exact Grammar.smallNames_standard
    have hused : f.name ∈ c.used := Context.mem_used_of_parse hsmall hc hstage hfirst hfilter
    exact notMem_used_of_mem_candidatesIn hplace hoffered hused
  · intro filter done spec hrole hspec hkind name hoffered
    have hfilter : filter ∈ s.grammar.filters := Context.mem_filters_of_parse hc hrole
    exact isColumn_of_mem_candidatesIn hgrammar hfilter hrole hspec hkind hoffered
  · intro filter done hrole hselect name hoffered
    rw [candidatesIn_of_select hrole hselect] at hoffered
    obtain ⟨hcolumn, hfresh⟩ := mem_selectable hoffered
    have hdone : c.filterArgs = done := by
      rw [Context.filterArgs, hrole]
    rw [hdone] at hfresh
    exact ⟨hcolumn, hfresh⟩
  · intro done hrole hkind name hoffered
    exact exists_directory_of_mem_candidatesIn hrole hkind hoffered

/-! ### Lines -/

/-- Completion in a directory with the given entries. -/
def completingEntries (entries : List PathEntry) : Suggester where
  sources := {
    commands := [], aliases := [], bookmarks := []
    entries := fun _ typed => entries.filter fun entry => Text.startsFolded entry.name typed
    continuations := fun _ _ => [] }

/-- The entries of the example begin with what is asked for. -/
lemma entriesBegin_completingEntries (entries : List PathEntry) :
    (completingEntries entries).sources.EntriesBegin :=
  fun _ _ _ hentry => (List.mem_filter.mp hentry).2

/-- A file and two directories that begin with the same letters, and another directory. -/
def shelf : List PathEntry :=
  [⟨"Bücher", true⟩, ⟨"bücher.txt", false⟩, ⟨"BÜNDE", true⟩, ⟨"Karten", true⟩]

/-- The context at the end of a path that is typed behind `cd`. -/
def shelfContext : Context where
  command := "cd"
  role := .argument []
  used := []
  word := "bÜ"
  argument := "../bÜ"

/-- In particular the directories are offered that begin with two letters in either case. -/
theorem exists_suiting_completion_shelf :
    (completingEntries shelf).grammar = .standard ∧
      (completingEntries shelf).sources.EntriesBegin ∧
      Context.parse .standard "cd ../bÜ" 9 = .ok shelfContext ∧
      ∃ completion, (completingEntries shelf).complete "cd ../bÜ" 9 = .ok completion ∧
        completion = { candidates := ["Bücher", "BÜNDE"], replaceFrom := 6 } ∧
        completion.Suits (completingEntries shelf) shelfContext "cd ../bÜ" 9 := by
  have hparse : Context.parse .standard "cd ../bÜ" 9 = .ok shelfContext := by decide +kernel
  have hcomplete : (completingEntries shelf).complete "cd ../bÜ" 9 =
      .ok { candidates := ["Bücher", "BÜNDE"], replaceFrom := 6 } := by decide +kernel
  have hentries := entriesBegin_completingEntries shelf
  obtain ⟨completion, hcompletion, hsuits⟩ := exists_suiting_completion rfl hentries hparse
  rw [hcomplete] at hcompletion
  obtain rfl := Except.ok.inj hcompletion
  exact ⟨rfl, hentries, hparse, _, hcomplete, rfl, hsuits⟩

/-- A filter is offered at the end of a line though it is the first word of an earlier stage when
the line is run. -/
def OffersUsedFilter (s : Suggester) (line : String) : Prop :=
  ∃ c completion name, Context.parse s.grammar line line.utf8ByteSize = .ok c ∧
    c.isFilterName = true ∧ s.complete line line.utf8ByteSize = .ok completion ∧
    name ∈ completion.candidates ∧ s.grammar.isFilter name = true ∧
    ∃ stage ∈ (Line.stages line).dropLast, (Line.words stage).head? = some name

/-- A column is offered at the end of a selection though it is listed there when the line is run. -/
def OffersListedColumn (s : Suggester) (line : String) : Prop :=
  ∃ completion name args, s.complete line line.utf8ByteSize = .ok completion ∧
    name ∈ completion.candidates ∧
    ((Line.stages line).getLast?).map Line.words = some ("select" :: args) ∧
    ∃ argument ∈ args, Text.lowercase name ∈ listedItems argument

/-- A filter is offered again behind a stage that has its name between quotes and behind a first
stage, and a column behind a list that has it between quotes or in front of a path separator. -/
theorem offered_again :
    (completingEntries []).sources.EntriesBegin ∧
      OffersUsedFilter (completingEntries []) "ls | \"where\" Size > 1kb | " ∧
      OffersUsedFilter (completingEntries []) "where Size > 1kb | " ∧
      OffersListedColumn (completingEntries []) "ls | select \"Name\" " ∧
      OffersListedColumn (completingEntries []) "ls | select Name,x/" := by
  let filters : List String := ["where", "sort-by", "select", "contains", "limit"]
  let columns : List String := ["Name", "Size", "Type", "Date"]
  refine ⟨entriesBegin_completingEntries [], ?_, ?_, ?_, ?_⟩
  · refine ⟨⟨"ls", .filterName false, [], "", ""⟩, ⟨filters, 26⟩, "where", ?_, rfl, ?_, ?_, ?_,
      "\"where\" Size > 1kb", ?_, ?_⟩ <;> decide +kernel
  · refine ⟨⟨"where", .filterName false, [], "", ""⟩, ⟨filters, 19⟩, "where", ?_, rfl, ?_, ?_, ?_,
      "where Size > 1kb", ?_, ?_⟩ <;> decide +kernel
  · refine ⟨⟨columns, 19⟩, "Name", ["Name"], ?_, ?_, ?_, "Name", ?_, ?_⟩ <;> decide +kernel
  · refine ⟨⟨columns, 19⟩, "Name", ["Name,x/"], ?_, ?_, ?_, "Name,x/", ?_, ?_⟩ <;> decide +kernel

end Suggester

end TableShell
