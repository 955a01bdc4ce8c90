import TableShell.CompareOp
import TableShell.Line.Context
import TableShell.Text.Order

/-!
# Completion

What can stand for the word at the cursor: names of filters, columns, operators and values in a
pipeline, and names of commands, aliases, bookmarks and files elsewhere. A candidate begins with
what is typed of the word, without regard to case.

Completion only looks things up. Where the names come from is left open.
-/

namespace TableShell

/-- A file or directory offered for a path that is being typed. -/
structure PathEntry where
  name : String
  isDirectory : Bool
  deriving DecidableEq, Repr

/-- What completion draws on. -/
structure Sources where
  commands : List String
  aliases : List String
  bookmarks : List String
  /-- The entries of a directory that begin with a typed text. -/
  entries : (dir typed : String) → List PathEntry
  /-- The lines that may continue a typed one, the best first; lines that only contain it are
  among them when it has the given number of characters. -/
  continuations : (typed : String) → (minSubstring : Nat) → List String

/-- From which lengths on a line is looked up in the history. -/
structure SuggestOptions where
  minFrequencyPrefix : Nat := 2
  minSubstringPrefix : Nat := 3
  deriving DecidableEq, Repr

/-- The rules and the sources of suggestions. -/
structure Suggester where
  sources : Sources
  options : SuggestOptions := {}
  grammar : Grammar := .standard

/-- Candidates for the word at the cursor, and the byte from which on they replace the line. -/
structure Completion where
  candidates : List String := []
  replaceFrom : Nat
  deriving DecidableEq, Repr

namespace Suggester

/-! ### Fixed values -/

/-- Counts that are offered for a limit. -/
def limitExamples : List String := ["5", "10", "20", "50"]

/-- The directions of a sort. -/
def directions : List String := ["asc", "desc"]

/-- The names that begin with a typed text. -/
def beginning (typed : String) (names : List String) : List String :=
  names.filter fun name => Text.startsFolded name typed

/-! ### Pipelines -/

/-- The filters that no earlier stage has used. -/
def unusedFilters (s : Suggester) (c : Context) : List String :=
  s.grammar.filterNames.filter fun name => !c.used.contains name

/-- The columns of the command before the filters that satisfy a condition on their meaning. -/
def fieldNames (s : Suggester) (c : Context) (allows : FieldType → Bool) : List String :=
  match s.grammar.source? c.source with
  | some source => (source.fields.filter fun f => allows f.type).map FieldDef.name
  | none => []

/-- The operators that fit a column. Columns that are not ordered can only be equal. -/
def operators (column : Option FieldType) : List String :=
  match column with
  | some t => if t.isOrdered then CompareOp.all.map CompareOp.symbol else [CompareOp.eq.symbol]
  | none => CompareOp.all.map CompareOp.symbol

/-- The values for an argument of a filter. The first argument of the filter names the column. -/
def argumentValues (s : Suggester) (c : Context) (filter : FilterDef) (spec : ArgSpec) :
    List String :=
  let column := s.grammar.fieldType? c.source (c.filterArg 0)
  match spec.kind with
  | .field => s.fieldNames c spec.allows
  | .operator => operators column
  | .value =>
    if filter.name == "limit" then limitExamples else (column.map FieldType.examples).getD []
  | .direction => directions
  | .pattern => []

/-- The part of a list separated by commas up to its last comma, and the item behind it. -/
def splitItems (word : List Char) : List Char × List Char :=
  match Text.cutLast ',' word with
  | some (head, item) => (head ++ [','], item)
  | none => ([], word)

/-- The items of a list separated by commas, in lower case. -/
def listedItems (text : String) : List String :=
  ((text.toList.splitOn ',').map fun item =>
    Text.lowercase (.ofList (Text.trimChars item))).filter fun item => !item.isEmpty

/-- The columns that can be added to a list of columns, which may go over several words. -/
def selectable (s : Suggester) (c : Context) (start : Nat) : Completion :=
  let (head, item) := splitItems c.word.toList
  let listed := ((c.filterArgs ++ [String.ofList head]).map listedItems).flatten
  let fresh := (s.fieldNames c fun _ => true).filter fun name =>
    !listed.contains (Text.lowercase name)
  { candidates := beginning (.ofList item) fresh
    replaceFrom := start + Text.byteLength head }

/-- The candidates for an argument of a filter after the arguments `done`. -/
def filterArgument (s : Suggester) (c : Context) (filter : FilterDef) (done : List String)
    (start : Nat) : Completion :=
  if filter.name == "select" then s.selectable c start
  else
    match filter.args[done.length]? with
    | some spec =>
      { candidates := beginning c.word (s.argumentValues c filter spec), replaceFrom := start }
    | none => { replaceFrom := start }

/-! ### Plain commands -/

/-- The entries of the directory that is typed of the argument, as far as they begin with the rest
of it. -/
def pathEntries (s : Suggester) (c : Context) : List PathEntry :=
  let (dir, name) := Context.splitPath c.argument.toList
  s.sources.entries (.ofList dir) (.ofList name)

/-- The first occurrences of names. -/
def unique (names : List String) : List String :=
  names.foldl (fun seen name => if seen.contains name then seen else seen ++ [name]) []

/-- The candidates for the first word: commands and aliases by their names, then files. -/
def commandNames (s : Suggester) (c : Context) : List String :=
  let names := Text.sortByName id (s.sources.commands ++ s.sources.aliases)
  unique (beginning c.word names ++ (s.pathEntries c).map PathEntry.name)

/-- The candidates for an argument of the given kind. For a file, directories are offered only
where there are no files. -/
def argumentNames (s : Suggester) (c : Context) : ArgumentType → List String
  | .directory => ((s.pathEntries c).filter PathEntry.isDirectory).map PathEntry.name
  | .file =>
    let entries := s.pathEntries c
    let files := entries.filter fun e => !e.isDirectory
    (if files.isEmpty then entries else files).map PathEntry.name
  | .both => (s.pathEntries c).map PathEntry.name
  | .any => (s.pathEntries c).map PathEntry.name
  | .bookmarkName => beginning c.word s.sources.bookmarks
  | .aliasName => beginning c.word s.sources.aliases
  | .subcommand =>
    beginning c.word ((s.grammar.subcommandsOf c.command).map Subcommand.name)
  | .text => []

/-! ### Completions -/

/-- The candidates in a context. -/
def candidatesIn (s : Suggester) (c : Context) (cursor : Nat) : Completion :=
  let start := c.wordStart cursor
  match c.role with
  | .filterName _ => { candidates := beginning c.word (s.unusedFilters c), replaceFrom := start }
  | .filterArgument filter done => s.filterArgument c filter done start
  | .unknown _ => { replaceFrom := start }
  | .command => { candidates := s.commandNames c, replaceFrom := start }
  | .argument done =>
    { candidates := s.argumentNames c (s.grammar.argumentAfter c.command done)
      replaceFrom := start }

/-- The candidates for the word that ends at the cursor, in the order in which they are shown. -/
def complete (s : Suggester) (line : String) (cursor : Nat) : Except ContextError Completion := do
  let cursor := Text.clampByte cursor line.toList
  let context ← Context.parse s.grammar line cursor
  return s.candidatesIn context cursor

end Suggester

namespace Completion

/-- The first candidate. -/
def best? (c : Completion) : Option String :=
  c.candidates.head?

end Completion

end TableShell
