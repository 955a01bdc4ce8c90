import TableShell.Failure

/-!
# Comparison operators

The five operators of the `where` filter.
-/

namespace TableShell

/-- A comparison between a cell and a literal. -/
inductive CompareOp where
  | gt
  | lt
  | ge
  | le
  | eq
  deriving DecidableEq, Repr

namespace CompareOp

/-- The sign that stands for an operator. -/
def symbol : CompareOp → String
  | gt => ">"
  | lt => "<"
  | ge => ">="
  | le => "<="
  | eq => "=="

/-- The operators, in the order in which they are offered. -/
def all : List CompareOp := [gt, lt, eq, ge, le]

/-- Whether an operator holds when its left side stands in the given order to its right side. -/
def accepts : CompareOp → Ordering → Bool
  | gt, o => o == .gt
  | lt, o => o == .lt
  | ge, o => o != .lt
  | le, o => o != .gt
  | eq, o => o == .eq

/-- The operator with the given sign. -/
def ofSymbol? (s : String) : Option CompareOp :=
  all.find? fun op => op.symbol == s

/-- The complaint about a sign that stands for no operator. -/
def unknownMessage (s : String) : String :=
  s!"unknown operator '{s}'. Supported: " ++ " ".intercalate (all.map symbol)

/-- Read an operator. -/
def parse (s : String) : Except Failure CompareOp :=
  match ofSymbol? s with
  | some op => .ok op
  | none => .error (.invalidArgument (unknownMessage s))

end CompareOp

end TableShell
