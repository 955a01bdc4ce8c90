import TableShell.Table.Layout
import TableShell.Terminal

/-!
# Output of commands

What a command hands back, and how it is written to a terminal.
-/

namespace TableShell

/-- What a command hands back. -/
inductive Output where
  | nothing
  | lines (texts : List String)
  | table (t : Table)
  | clearScreen
  deriving DecidableEq, Repr

namespace Output

/-- A single line of text. -/
def line (text : String) : Output := .lines [text]

/-- A line and its end; a marked line is coloured. -/
def writtenLine (text : String) (marked : Bool) : List TerminalOp :=
  if marked then [.setColour .yellow, .print text, .resetColour, .print "\n"]
  else [.print (text ++ "\n")]

/-- The line below a table that counts its rows. -/
def rowCount (n : Nat) : String :=
  "(" ++ n.repr ++ (if n == 1 then " row)" else " rows)")

/-- The terminal operations that write an output. -/
def operations : Output → List TerminalOp
  | nothing => []
  | lines texts => texts.map fun text => .print (text ++ "\n")
  | table t =>
    (t.layout.map fun (text, marked) => writtenLine text marked).flatten ++
      [.print (rowCount t.rows.length ++ "\n")]
  | clearScreen => [.clearAll, .toTopLeft]

/-- The characters that write an output. -/
def written (o : Output) : String :=
  TerminalOp.encodeAll o.operations

end Output

end TableShell
