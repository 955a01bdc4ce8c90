import TableShell.Text.Ascii

/-!
# The grammar of lines

What may stand where in a line: the columns that a command produces, the arguments that a filter
takes, and the kind of argument that a plain command takes. Names are looked up without regard to
ASCII case.
-/

namespace TableShell

/-- The role of an argument of a filter. -/
inductive ArgKind where
  | field
  | operator
  | value
  | direction
  | pattern
  deriving DecidableEq, Repr

/-- What the values of a column mean. -/
inductive FieldType where
  | name
  | size
  | type
  | date
  | pid
  | memory
  | threads
  deriving DecidableEq, Repr

namespace FieldType

/-- All meanings of columns. -/
def all : List FieldType := [name, size, type, date, pid, memory, threads]

/-- Whether a column can be compared by order. -/
def isOrdered : FieldType → Bool
  | name => false
  | type => false
  | _ => true

/-- Literals that are offered for a comparison with a column. -/
def examples : FieldType → List String
  | size => ["1KB", "100KB", "1MB", "10MB", "100MB", "1GB"]
  | memory => ["10MB", "50MB", "100MB", "500MB", "1GB"]
  | type => ["File", "Directory"]
  | threads => ["1", "2", "4", "8", "16"]
  | name => []
  | date => []
  | pid => []

end FieldType

/-- A column that a command produces. -/
structure FieldDef where
  name : String
  type : FieldType
  deriving DecidableEq, Repr

/-- A command that produces a table, with its columns in order. -/
structure TableSource where
  command : String
  fields : List FieldDef
  deriving DecidableEq, Repr

/-- One argument of a filter; for a column, the meanings that it may have. -/
structure ArgSpec where
  kind : ArgKind
  allowed : Option (List FieldType) := none
  deriving DecidableEq, Repr

/-- Whether a column of the given meaning may stand here. -/
def ArgSpec.allows (spec : ArgSpec) (t : FieldType) : Bool :=
  match spec.allowed with
  | none => true
  | some types => types.contains t

/-- A filter and its arguments. -/
structure FilterDef where
  name : String
  args : List ArgSpec
  deriving DecidableEq, Repr

/-- Whether a filter names a column. -/
def FilterDef.takesField (d : FilterDef) : Bool :=
  d.args.any fun spec => spec.kind == .field

/-- The kind of argument of a plain command. -/
inductive ArgumentType where
  | directory
  | file
  | bookmarkName
  | aliasName
  /-- Files and directories alike. -/
  | both
  | any
  /-- A word of the command's own. -/
  | subcommand
  /-- A text of which nothing is known. -/
  | text
  deriving DecidableEq, Repr

/-- A word of a command's own and the kinds of the arguments after it. -/
structure Subcommand where
  name : String
  args : List ArgumentType
  deriving DecidableEq, Repr

/-- What may stand where in a line. -/
structure Grammar where
  filters : List FilterDef
  sources : List TableSource
  argumentTypes : List (String × ArgumentType)
  subcommands : List (String × List Subcommand)
  /-- No filter has the name of the bar between two stages. -/
  bar_isNoFilter : ∀ f ∈ filters, Text.sameIgnoringCase f.name "|" = false
  deriving Repr

namespace Grammar

/-! ### Look-up -/

/-- The first entry of a table whose name is `s`. -/
def lookupName {α : Type} (name : α → String) (s : String) (entries : List α) : Option α :=
  entries.find? fun entry => Text.sameIgnoringCase (name entry) s

/-- The filter with a name. -/
def filter? (g : Grammar) (s : String) : Option FilterDef :=
  lookupName FilterDef.name s g.filters

/-- Whether a name is that of a filter. -/
def isFilter (g : Grammar) (s : String) : Bool :=
  (g.filter? s).isSome

/-- The names of the filters, in order. -/
def filterNames (g : Grammar) : List String :=
  g.filters.map FilterDef.name

/-- The command with a name that produces a table. -/
def source? (g : Grammar) (command : String) : Option TableSource :=
  lookupName TableSource.command command g.sources

/-- The meaning of a column that a command produces. -/
def fieldType? (g : Grammar) (command field : String) : Option FieldType := do
  let source ← g.source? command
  let found ← lookupName FieldDef.name field source.fields
  return found.type

/-- The kind of argument that a command takes; commands that are not listed take any. -/
def commandArgument (g : Grammar) (command : String) : ArgumentType :=
  ((lookupName Prod.fst command g.argumentTypes).map Prod.snd).getD .any

/-- The words of its own that a command knows. -/
def subcommandsOf (g : Grammar) (command : String) : List Subcommand :=
  ((lookupName Prod.fst command g.subcommands).map Prod.snd).getD []

/-- The kind of the next argument of a command after the arguments `args`. Behind a word of the
command's own its place decides; an unknown word or a place too many takes a text. -/
def argumentAfter (g : Grammar) (command : String) (args : List String) : ArgumentType :=
  let kind := g.commandArgument command
  if kind != .subcommand then kind
  else match args with
    | [] => .subcommand
    | word :: rest =>
      match lookupName Subcommand.name word (g.subcommandsOf command) with
      | some sub => (sub.args[rest.length]?).getD .text
      | none => .text

/-! ### The grammar of the shell -/

/-- The columns of a listing of a directory. -/
def listingFields : List FieldDef :=
  [⟨"Name", .name⟩, ⟨"Size", .size⟩, ⟨"Type", .type⟩, ⟨"Date", .date⟩]

/-- The columns of the table of processes. -/
def processFields : List FieldDef :=
  [⟨"PID", .pid⟩, ⟨"Name", .name⟩, ⟨"Memory", .memory⟩, ⟨"Threads", .threads⟩]

/-- The grammar of the shell. -/
def standard : Grammar where
  filters :=
    [{ name := "where"
       args := [{ kind := .field, allowed := some [.size, .type, .date, .pid, .memory, .threads] },
         { kind := .operator }, { kind := .value }] },
     { name := "sort-by", args := [{ kind := .field }, { kind := .direction }] },
     { name := "select", args := [{ kind := .field }] },
     { name := "contains"
       args := [{ kind := .field, allowed := some [.name] }, { kind := .pattern }] },
     { name := "limit", args := [{ kind := .value }] }]
  sources := [⟨"ls", listingFields⟩, ⟨"dir", listingFields⟩, ⟨"ps", processFields⟩]
  argumentTypes :=
    [("cd", .directory), ("ls", .directory), ("dir", .directory), ("mkdir", .directory),
     ("rmdir", .directory), ("cat", .file), ("type", .file), ("touch", .file), ("edit", .file),
     ("rm", .both), ("del", .both), ("cp", .both), ("mv", .both), ("jump", .bookmarkName),
     ("bookmark", .subcommand), ("unalias", .aliasName), ("alias", .aliasName), ("echo", .any)]
  subcommands :=
    [("bookmark",
      [⟨"list", []⟩, ⟨"add", [.text, .directory]⟩, ⟨"rm", [.bookmarkName]⟩,
       ⟨"remove", [.bookmarkName]⟩])]
  bar_isNoFilter := by decide +kernel

end Grammar

end TableShell
