import TableShell.StableSort
import TableShell.Table
import TableShell.Text.Search

/-!
# Filters

Filters turn a table into another one: they keep some of its rows, sort them, or pick columns. A
chain of stages hands the table from filter to filter and ends at the first failure. No filter
changes a cell.
-/

namespace TableShell

/-- The filters. -/
inductive Filter where
  /-- Keep the rows in which a column compares with a literal. -/
  | condition
  /-- Sort the rows by a column. -/
  | sortBy
  /-- Pick columns. -/
  | select
  /-- Keep the rows in which a column contains a text. -/
  | contains
  /-- Keep the first rows. -/
  | limit
  deriving DecidableEq, Repr

namespace Filter

/-- The filters in the order in which they are offered. -/
def all : List Filter := [condition, sortBy, select, contains, limit]

/-- The name of a filter. -/
def name : Filter → String
  | condition => "where"
  | sortBy => "sort-by"
  | select => "select"
  | contains => "contains"
  | limit => "limit"

/-- How a filter is used. -/
def usage : Filter → String
  | condition => "where <field> <operator> <value>  (operators: > < >= <= ==)"
  | sortBy => "sort-by <field> [asc|desc]"
  | select => "select <field>[,<field>...]"
  | contains => "contains <field> <text>"
  | limit => "limit <N>  (N > 0)"

/-- The names of all filters. -/
def names : List String := all.map name

/-- The filter with a name, without regard to ASCII case. -/
def find? (s : String) : Option Filter :=
  all.find? fun f => Text.sameIgnoringCase f.name s

/-- The failure of a filter that is used wrongly. -/
def misused (f : Filter) (problem : String) : Failure :=
  .usage f.name problem f.usage

/-! ### The filters -/

/-- Keep the rows in which a column compares with a literal. The literal may have several
words. -/
def applyCondition (t : Table) : List String → Except Failure Table
  | field :: operator :: first :: more => do
    let _ ← t.requireColumn field
    match CompareOp.ofSymbol? operator with
    | none => throw (condition.misused (CompareOp.unknownMessage operator))
    | some _ => t.filterRows field operator (" ".intercalate (first :: more))
  | _ => throw (condition.misused "missing arguments")

/-- Read a sorting direction: whether it is descending. -/
def parseDirection : List String → Except Failure Bool
  | [] => pure false
  | word :: _ =>
    let small := Text.asciiLower word
    if small == "asc" then pure false
    else if small == "desc" then pure true
    else throw (sortBy.misused s!"unknown direction '{small}'")

/-- The order of two rows by one column. -/
def compareRows (sizeColumn : Bool) (col : Nat) (a b : Row) : Ordering :=
  match a[col]?, b[col]? with
  | some x, some y => x.compareCells y sizeColumn
  | _, _ => .eq

/-- Whether two rows have cells of one kind in a column, with numbers that can be compared. -/
def alike (col : Nat) (a b : Row) : Bool :=
  match a[col]?, b[col]? with
  | some x, some y => x.value.alike y.value
  | _, _ => false

/-- Whether a column orders rows: its cells are sizes, or all of one kind that can be compared. -/
def isOrdered (sizeColumn : Bool) (col : Nat) (rows : List Row) : Bool :=
  sizeColumn || match rows with
    | [] => true
    | first :: _ => rows.all (alike col first)

/-- Sort rows by one column. Rows that compare equal keep their order in both directions. Where the
column does not order the rows, the outcome hangs on which rows are compared. -/
def sortRows (descending sizeColumn : Bool) (col : Nat) (rows : List Row) : List Row :=
  let order := if descending then Ordering.gt else Ordering.lt
  let below (a b : Row) : Bool := compareRows sizeColumn col a b == order
  if isOrdered sizeColumn col rows then rows.mergeSort fun a b => !below b a
  else stableSort below rows

/-- Sorting rearranges the rows; none is lost and none is made up. -/
theorem sortRows_perm (descending sizeColumn : Bool) (col : Nat) (rows : List Row) :
    (sortRows descending sizeColumn col rows).Perm rows := by
  simp only [sortRows]
  split
  · exact List.mergeSort_perm rows _
  · exact stableSort_perm _ rows

/-- Sort the rows by a column, upwards unless told otherwise. -/
def applySort (t : Table) : List String → Except Failure Table
  | [] => throw (sortBy.misused "missing field")
  | field :: direction => do
    let col ← t.requireColumn field
    let descending ← parseDirection direction
    return { t with rows := sortRows descending (t.isSizeColumn col) col t.rows }

/-- The column names in a list separated by commas; blanks around them do not count. -/
def fieldNames (args : List String) : List String :=
  let items := (" ".intercalate args).toList.splitOn ','
  (items.map fun item => String.ofList (Text.trimChars item)).filter fun field => !field.isEmpty

/-- The table of the given columns, in the given order. -/
def project (t : Table) (cols : List Nat) : Table where
  headers := cols.filterMap fun col => t.headers[col]?
  rows := t.rows.map fun row => cols.filterMap fun col => row[col]?

/-- Pick columns. -/
def applySelect (t : Table) (args : List String) : Except Failure Table := do
  let fields := fieldNames args
  if fields.isEmpty then throw (select.misused "no fields given")
  let cols ← fields.mapM t.requireColumn
  return project t cols

/-- Whether a row's cell in one column is a text that contains `needle`, which is in lower case,
without regard to case. -/
def textContains (needle : List Char) (col : Nat) (row : Row) : Bool :=
  match row[col]? with
  | some { value := .text s, .. } => Text.occursIn needle (Text.lowerChars s.toList)
  | _ => false

/-- Keep the rows in which a column contains a text. The text may have several words. -/
def applyContains (t : Table) : List String → Except Failure Table
  | field :: first :: more => do
    let col ← t.requireColumn field
    let needle := Text.lowerChars (" ".intercalate (first :: more)).toList
    return t.keep (textContains needle col)
  | _ => throw (contains.misused "missing arguments")

/-- Keep the first rows, at least one. -/
def applyLimit (t : Table) : List String → Except Failure Table
  | [] => throw (limit.misused "missing count")
  | word :: _ =>
    match readInteger? word with
    | none => throw (limit.misused s!"'{word}' is not a number")
    | some n =>
      if 0 < n then pure { t with rows := t.rows.take n.toNat }
      else throw (limit.misused s!"count must be positive, got {n}")

/-- Apply a filter with its arguments to a table. -/
def process (f : Filter) (t : Table) (args : List String) : Except Failure Table :=
  match f with
  | condition => applyCondition t args
  | sortBy => applySort t args
  | select => applySelect t args
  | contains => applyContains t args
  | limit => applyLimit t args

/-! ### Chains -/

/-- The failure for a name that no filter has. -/
def unknown (s : String) : Failure :=
  (Failure.invalidArgument ("unknown filter. Available: " ++ ", ".intercalate names)).withDetail
    "filter" s

/-- Apply the filter with the given name. A failure names the filter. -/
def applyNamed (s : String) (t : Table) (args : List String) : Except Failure Table :=
  match find? s with
  | none => .error (unknown s)
  | some f => (f.process t args).mapError fun e => e.withDetail "filter" f.name

/-- A filter by name and its arguments. -/
structure Stage where
  name : String
  args : List String
  deriving DecidableEq, Repr

/-- The stage written as words; there is none in a blank text. -/
def Stage.ofWords? : List String → Option Stage
  | [] => none
  | name :: args => some { name, args }

/-- The stage written in a text whose words are separated by blanks. -/
def Stage.parse? (s : String) : Option Stage :=
  Stage.ofWords? (Text.words s)

/-- Hand a table through every stage in order, up to the first failure. -/
def runChain : Table → List Stage → Except Failure Table
  | t, [] => .ok t
  | t, stage :: rest => do
    let next ← applyNamed stage.name t stage.args
    runChain next rest

end Filter

end TableShell
