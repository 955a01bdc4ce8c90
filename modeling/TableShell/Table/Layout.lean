import TableShell.Table
import TableShell.Text.Blank
import TableShell.Text.Search

/-!
# Printed tables

A table is printed as a line of column names, a rule of dashes and a line per row. Columns are as
wide as their widest text, counted in characters, and stand two spaces apart. A column is aligned
on the right when its first cell is a quantity.
-/

namespace TableShell.Table

/-- The width of each column: that of its name or of the widest cell text in it. -/
def columnWidths (t : Table) : List Nat :=
  t.rows.foldl
    (fun widths row => widths.mapIdx fun i w =>
      match row[i]? with
      | some cell => max w cell.display.toList.length
      | none => w)
    (t.headers.map fun header => header.toList.length)

/-- Whether each column is aligned on the right. -/
def rightAligned (t : Table) : List Bool :=
  t.headers.mapIdx fun i _ =>
    match t.rows with
    | first :: _ => (first[i]?.map fun cell => cell.value.isNumeric).getD false
    | [] => false

/-- Fill a text up to the width of its column. -/
def alignText (width : Nat) (right : Bool) (s : String) : String :=
  if right then Text.padLeft width s else Text.padRight width s

/-- One line of texts under the columns, without blanks at its end. -/
def layoutLine (widths : List Nat) (aligned : List Bool) (texts : List String) : String :=
  Text.trimEnd <| "  ".intercalate <|
    (texts.zip (widths.zip aligned)).map fun (s, width, right) => alignText width right s

/-- The lines of a printed table; a row's line is marked when one of its cells is. -/
def layout (t : Table) : List (String × Bool) :=
  let widths := t.columnWidths
  let aligned := t.rightAligned
  let rule := "  ".intercalate (widths.map fun width => .ofList (List.replicate width '-'))
  (layoutLine widths aligned t.headers, false) :: (rule, false) ::
    t.rows.map fun row =>
      (layoutLine widths aligned (row.map Cell.display), row.any fun cell => cell.highlighted)

end TableShell.Table
