/-!
# Terminal operations

What is done to a terminal, the control sequences that ask for it, and the columns that what is
written takes.
-/

namespace TableShell

/-- The colours in use. -/
inductive Colour where
  /-- Text that is only suggested. -/
  | darkGrey
  /-- A candidate that is being tried. -/
  | cyan
  /-- A marked row of a table. -/
  | yellow
  deriving DecidableEq, Repr

/-- The number of a colour in the palette of 256 colours. -/
def Colour.code : Colour → Nat
  | darkGrey => 8
  | yellow => 11
  | cyan => 14

/-- A single operation of a terminal. Columns count from zero. -/
inductive TerminalOp where
  | hideCursor
  | showCursor
  | toColumn (column : Nat)
  | toTopLeft
  | clearToLineEnd
  | clearAll
  | setColour (colour : Colour)
  | resetColour
  | print (text : String)
  deriving DecidableEq, Repr

namespace TerminalOp

/-- The characters that ask a terminal for an operation. The terminal counts columns from one, in a
number of 16 bits. -/
def encode : TerminalOp → String
  | hideCursor => "\x1b[?25l"
  | showCursor => "\x1b[?25h"
  | toColumn column => "\x1b[" ++ ((column + 1) % 0x10000).repr ++ "G"
  | toTopLeft => "\x1b[1;1H"
  | clearToLineEnd => "\x1b[K"
  | clearAll => "\x1b[2J"
  | setColour colour => "\x1b[38;5;" ++ colour.code.repr ++ "m"
  | resetColour => "\x1b[0m"
  | print text => text

/-- The characters that ask for several operations in turn. -/
def encodeAll (ops : List TerminalOp) : String :=
  "".intercalate (ops.map encode)

end TerminalOp

/-! ### Columns -/

/-- The columns that characters and texts take on a terminal. A text need not take those of its
characters together: in some scripts neighbouring characters share a column. -/
class ColumnWidths where
  char : Char → Nat
  text : String → Nat

end TableShell
