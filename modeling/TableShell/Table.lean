import TableShell.Cell
import TableShell.CompareOp
import TableShell.Text.Ascii

/-!
# Tables

A table is a list of column names and a list of rows that hold a cell for each column. Columns
are found by name without regard to ASCII case; of several columns with the same name the first
one is found.
-/

namespace TableShell

/-- Named columns and rows of cells. -/
structure Table where
  headers : List String
  rows : List Row := []
  deriving DecidableEq, Repr, Inhabited

namespace Table

/-- Every row has a cell for each column and no more. -/
def Rectangular (t : Table) : Prop :=
  ∀ row ∈ t.rows, row.length = t.headers.length

/-- The table without its rows. -/
def emptied (t : Table) : Table :=
  { headers := t.headers }

/-- Whether two tables have the same columns and the same cells. -/
def same (a b : Table) : Bool :=
  a.headers == b.headers && a.rows.length == b.rows.length &&
    (a.rows.zip b.rows).all fun (r, s) =>
      r.length == s.length && (r.zip s).all fun (c, d) => c.same d

/-! ### Columns -/

/-- Columns whose cells are sizes whatever kind of value they hold. -/
def isSizeField (name : String) : Bool :=
  Text.sameIgnoringCase name "size" || Text.sameIgnoringCase name "memory"

/-- The position of a column. -/
def column? (t : Table) (name : String) : Option Nat :=
  t.headers.findIdx? fun header => Text.sameIgnoringCase header name

/-- The position of a column that has to be there. -/
def requireColumn (t : Table) (name : String) : Except Failure Nat :=
  match t.column? name with
  | some col => .ok col
  | none => .error (.unknownField name t.headers)

/-- Whether the cells of a column are compared as sizes. -/
def isSizeColumn (t : Table) (col : Nat) : Bool :=
  match t.headers[col]? with
  | some header => isSizeField header
  | none => false

/-! ### Rows -/

/-- Keep the rows that satisfy a condition. -/
def keep (t : Table) (condition : Row → Bool) : Table :=
  { t with rows := t.rows.filter condition }

/-- Whether the cell of a row in one column stands in the given relation to a typed literal. A
cell that the literal does not fit stands in no relation to it. -/
def cellAccepts (op : CompareOp) (literal : String) (sizeColumn : Bool) (col : Nat) (row : Row) :
    Bool :=
  match row[col]? with
  | some cell =>
    match cell.compareLiteral? literal sizeColumn with
    | some order => op.accepts order
    | none => false
  | none => false

/-- Keep the rows whose cell in the named column stands in the relation `operator` to `literal`.
An operator that does not exist holds for no row. -/
def filterRows (t : Table) (field operator literal : String) : Except Failure Table := do
  let col ← t.requireColumn field
  match CompareOp.ofSymbol? operator with
  | some op => return t.keep (cellAccepts op literal (t.isSizeColumn col) col)
  | none => return t.emptied

end Table

end TableShell
