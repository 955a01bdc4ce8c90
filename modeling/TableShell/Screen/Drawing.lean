import TableShell.Editor.Basic
import TableShell.Terminal

/-!
# The line on the screen

What the line of the editor looks like, and how it is brought onto the screen. Only what follows
the part that has not changed since the last drawing is written, with the cursor hidden meanwhile.

How many columns a character or a text takes is up to the terminal, so the widths are a parameter of
everything that counts columns.
-/

namespace TableShell

/-- How a text is shown. -/
inductive Style where
  | normal
  /-- A suggestion, which is not part of the line. -/
  | ghost
  /-- A candidate that is being tried. -/
  | highlight
  deriving DecidableEq, Repr

/-- The colour of a style; the normal one has none. -/
def Style.colour? : Style → Option Colour
  | normal => none
  | ghost => some .darkGrey
  | highlight => some .cyan

/-- A text in one style. -/
structure Span where
  text : String
  style : Style
  deriving DecidableEq, Repr

/-- What the line looks like, and the column of the cursor. -/
structure Frame where
  spans : List Span := []
  cursorColumn : Nat := 0
  deriving DecidableEq, Repr

namespace Frame

/-- A normal text with the cursor at its end. -/
def plain [ColumnWidths] (text : String) : Frame :=
  { spans := [{ text, style := .normal }], cursorColumn := ColumnWidths.text text }

/-- The text that is shown. -/
def text (f : Frame) : String :=
  "".intercalate (f.spans.map Span.text)

/-- The characters that are shown, with their styles. -/
def cells (f : Frame) : List (Char × Style) :=
  (f.spans.map fun span => span.text.toList.map fun c => (c, span.style)).flatten

/-- The line of an editor, with the candidate that is being tried set off. -/
def lineSpans (e : Editor) : List Span :=
  let text := e.line.text
  match e.cycledRange? with
  | some (start, stop) =>
    [{ text := Text.takeBytes start text, style := .normal },
     { text := Text.sliceBytes start stop text, style := .highlight },
     { text := Text.dropBytes stop text, style := .normal }]
  | none => [{ text, style := .normal }]

/-- The suggestion of an editor. -/
def ghostSpans (e : Editor) : List Span :=
  match e.ghost? with
  | some text => [{ text, style := .ghost }]
  | none => []

/-- A prompt and the line of an editor behind it. -/
def compose [ColumnWidths] (e : Editor) (prompt : String) : Frame :=
  let spans := { text := prompt, style := .normal } :: lineSpans e ++ ghostSpans e
  { spans := spans.filter fun span => !span.text.isEmpty
    cursorColumn :=
      ColumnWidths.text prompt + ColumnWidths.text (Text.takeBytes e.line.cursor e.line.text) }

/-- The line as it stays on the screen: without suggestions, and in the normal style. -/
def settled (f : Frame) : Frame :=
  { f with
    spans := (f.spans.filter fun span => span.style != .ghost).map fun span =>
      { span with style := .normal } }

end Frame

/-- What is known to be on the screen: the frame that was drawn last, if nothing else has been
written since. -/
structure Screen where
  last : Option Frame := none
  deriving DecidableEq, Repr

namespace Screen

/-! ### Writing cells -/

/-- The maximal runs of characters of one style. -/
def runs : List (Char × Style) → List (Style × List Char)
  | [] => []
  | (c, style) :: rest =>
    match runs rest with
    | [] => [(style, [c])]
    | (next, cs) :: more =>
      if style == next then (style, c :: cs) :: more else (style, [c]) :: (next, cs) :: more

/-- The operations that write a text in a style. -/
def writeRun (style : Style) (text : String) : List TerminalOp :=
  match style.colour? with
  | none => [.print text]
  | some colour => [.setColour colour, .print text, .resetColour]

/-- The operations that write cells. -/
def writeCells (cells : List (Char × Style)) : List TerminalOp :=
  ((runs cells).map fun (style, cs) => writeRun style (.ofList cs)).flatten

/-! ### Drawing -/

/-- The largest column that the cursor can be moved to. -/
def lastColumn : Nat := 0xFFFF

/-- Move the cursor to a column, or as far as it can go. -/
def moveTo (column : Nat) : TerminalOp :=
  .toColumn (min column lastColumn)

/-- The number of cells at the start that two lines have in common. -/
def common : List (Char × Style) → List (Char × Style) → Nat
  | a :: as, b :: bs => if a == b then common as bs + 1 else 0
  | _, _ => 0

/-- The columns that characters take one by one. -/
def columns [ColumnWidths] : List (Char × Style) → Nat
  | [] => 0
  | (c, _) :: rest => ColumnWidths.char c + columns rest

/-- The operations that bring `cells` onto a line that shows `shown`. -/
def repaint [ColumnWidths] (shown cells : List (Char × Style)) (cursorColumn : Nat) :
    List TerminalOp :=
  let kept := common shown cells
  let column := columns (cells.take kept)
  [.hideCursor, moveTo column] ++ writeCells (cells.drop kept) ++
    [.clearToLineEnd, moveTo cursorColumn, .showCursor]

/-- Draw a frame, unless it is on the screen already. -/
def draw [ColumnWidths] (s : Screen) (f : Frame) : List TerminalOp × Screen :=
  if s.last == some f then ([], s)
  else
    let shown := (s.last.map Frame.cells).getD []
    (repaint shown f.cells f.cursorColumn, { last := some f })

/-- Draw a frame as it is to stay, and go to the next line. -/
def finishLine [ColumnWidths] (s : Screen) (f : Frame) : List TerminalOp × Screen :=
  ((s.draw f.settled).1 ++ [.print "\r\n"], { last := none })

/-- Clear the screen. -/
def clear : List TerminalOp × Screen :=
  ([.clearAll, .toTopLeft], { last := none })

/-- Forget what is on the screen. -/
def invalidated : Screen := { last := none }

end Screen

end TableShell
