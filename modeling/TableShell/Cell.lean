import TableShell.Number.Reading
import TableShell.Size
import TableShell.Text.Blank
import TableShell.Text.Order

/-!
# Cells

The values that tables hold, their texts, and the two ways to compare them: with a literal that
someone typed, where a value can be out of place, and with another cell of the same column, where
there is always an answer.
-/

namespace TableShell

/-- What a cell holds. -/
inductive Value where
  /-- A text. -/
  | text (s : String)
  /-- A whole number. -/
  | integer (i : Int)
  /-- A floating-point number. -/
  | real (x : Binary64)
  /-- A size in the form for people, compared by its bytes. -/
  | size (s : String)
  deriving DecidableEq, Repr, Inhabited

/-- A value, possibly marked for attention. -/
structure Cell where
  value : Value
  highlighted : Bool := false
  deriving DecidableEq, Repr, Inhabited

/-- One row of a table, a cell for each column. -/
abbrev Row := List Cell

namespace Value

/-- The name of the kind of value. -/
def typeName : Value → String
  | text _ => "string"
  | integer _ => "int"
  | real _ => "float"
  | size _ => "size"

/-- The text of a value that is stored as text. -/
def stored? : Value → Option String
  | text s => some s
  | size s => some s
  | _ => none

/-- Whether a value stands for a quantity. -/
def isNumeric : Value → Bool
  | text _ => false
  | _ => true

/-- The text of a value. Floating-point numbers have two decimal places. -/
def display : Value → String
  | text s => s
  | integer i => toString i
  | real x => x.toFixed 2
  | size s => s

/-- The bytes that a value stands for in a column of sizes. Numbers count bytes already, and a
negative count is none. -/
def bytes : Value → Nat
  | text s => Size.bytesOf s
  | size s => Size.bytesOf s
  | integer i => i.toNat
  | real x => x.truncate maxWord

/-- Whether two values are the same. Floating-point numbers are compared as numbers, so the two
zeros are the same and what is not a number differs from itself. -/
def same : Value → Value → Bool
  | text a, text b => a == b
  | integer a, integer b => a == b
  | real a, real b => a.equals b
  | size a, size b => a == b
  | _, _ => false

/-- Whether two values are of one kind, and numbers if they are floating-point numbers. -/
def alike : Value → Value → Bool
  | text _, text _ => true
  | integer _, integer _ => true
  | real a, real b => a != .nan && b != .nan
  | size _, size _ => true
  | _, _ => false

end Value

namespace Cell

/-- The text of a cell. -/
def display (c : Cell) : String := c.value.display

/-- Whether two cells have the same value and the same mark. -/
def same (a b : Cell) : Bool :=
  a.value.same b.value && a.highlighted == b.highlighted

/-! ### Comparison -/

/-- Compare a cell with a typed literal, or nothing where the literal does not fit the cell. In a
column of sizes, and for every size, both sides are byte counts. -/
def compareLiteral? (cell : Cell) (literal : String) (sizeColumn : Bool) : Option Ordering :=
  let bySize : Option Ordering :=
    (Size.parse? literal).map fun bytes => compare cell.value.bytes bytes
  let typed := Text.trim literal
  match sizeColumn, cell.value with
  | true, _ => bySize
  | false, .size _ => bySize
  | false, .text s => some (Text.compareFolded s typed)
  | false, .integer i =>
    match readInteger? typed with
    | some r => some (compare i r)
    | none => (Binary64.read? typed).bind fun r => (Binary64.ofInt i).compare? r
  | false, .real x => (Binary64.read? typed).bind fun r => x.compare? r

/-- Compare two cells of one column. Numbers that cannot be compared count as equal, and values
of different kinds are compared by their texts, whole and floating-point numbers excepted. -/
def compareCells (a b : Cell) (sizeColumn : Bool) : Ordering :=
  if sizeColumn then compare a.value.bytes b.value.bytes
  else match a.value, b.value with
    | .integer x, .integer y => compare x y
    | .real x, .real y => (x.compare? y).getD .eq
    | .integer x, .real y => ((Binary64.ofInt x).compare? y).getD .eq
    | .real x, .integer y => (x.compare? (Binary64.ofInt y)).getD .eq
    | .size x, .size y => compare (Size.bytesOf x) (Size.bytesOf y)
    | _, _ => Text.compareFolded a.display b.display

end Cell

end TableShell
