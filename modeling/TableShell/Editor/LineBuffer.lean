import TableShell.Text.Blank
import TableShell.Text.Offset
import TableShell.Text.Search

/-!
# A line with a cursor

The text of a line and a cursor in it, a byte offset. The text can be cut at a boundary only, that
is between two characters or at an end; an operation that would cut it elsewhere has no result.
-/

namespace TableShell

/-- A text and the byte in front of which the cursor stands. -/
structure LineBuffer where
  text : String := ""
  cursor : Nat := 0
  deriving DecidableEq, Repr

namespace LineBuffer

/-- A text with the cursor at its end. -/
def atEnd (text : String) : LineBuffer :=
  { text, cursor := text.utf8ByteSize }

/-- Whether the cursor stands at the end. -/
def isAtEnd (b : LineBuffer) : Bool :=
  b.cursor == b.text.utf8ByteSize

/-- The characters before the cursor, which has to stand on a boundary. -/
def before? (b : LineBuffer) : Option (List Char) :=
  (Text.cutAtByte? b.cursor b.text.toList).map Prod.fst

/-- The characters behind the cursor, which has to stand on a boundary. -/
def after? (b : LineBuffer) : Option (List Char) :=
  (Text.cutAtByte? b.cursor b.text.toList).map Prod.snd

/-! ### Moving -/

/-- The byte at which the character before the cursor starts; the start of the line has none. -/
def previous? (b : LineBuffer) : Option Nat := do
  let before ← b.before?
  return Text.byteLength before.dropLast

/-- The byte at which the character behind the cursor ends; the end of the line has none. -/
def next? (b : LineBuffer) : Option Nat := do
  match ← b.after? with
  | [] => return b.text.utf8ByteSize
  | c :: _ => return b.cursor + c.utf8Size

/-- Move the cursor one character to the left. -/
def moveLeft? (b : LineBuffer) : Option LineBuffer := do
  return { b with cursor := ← b.previous? }

/-- Move the cursor one character to the right. -/
def moveRight? (b : LineBuffer) : Option LineBuffer := do
  return { b with cursor := ← b.next? }

/-- Move the cursor to the start. -/
def moveHome (b : LineBuffer) : LineBuffer :=
  { b with cursor := 0 }

/-- Move the cursor to the end. -/
def moveEnd (b : LineBuffer) : LineBuffer :=
  { b with cursor := b.text.utf8ByteSize }

/-! ### Editing -/

/-- Put a character in front of the cursor. -/
def insert? (b : LineBuffer) (c : Char) : Option LineBuffer := do
  let (before, after) ← Text.cutAtByte? b.cursor b.text.toList
  return { text := .ofList (before ++ c :: after), cursor := b.cursor + c.utf8Size }

/-- The text without the bytes from `start` up to `stop`, both of them boundaries. -/
def without? (b : LineBuffer) (start stop : Nat) : Option String := do
  let (before, _) ← Text.cutAtByte? start b.text.toList
  let (_, after) ← Text.cutAtByte? stop b.text.toList
  if start ≤ stop then some (.ofList (before ++ after)) else none

/-- Delete the character before the cursor. -/
def deleteBackward? (b : LineBuffer) : Option LineBuffer :=
  if 0 < b.cursor then do
    let start ← b.previous?
    return { text := ← b.without? start b.cursor, cursor := start }
  else some b

/-- Delete the character behind the cursor. -/
def deleteForward? (b : LineBuffer) : Option LineBuffer :=
  if b.cursor < b.text.utf8ByteSize then do
    let stop ← b.next?
    return { b with text := ← b.without? b.cursor stop }
  else some b

/-- The byte at which the last word of a text starts, the blanks behind it left aside: the end of
the last blank before it. -/
def lastWordStart (text : List Char) : Nat :=
  let trimmed := Text.trimEndChars text
  match Text.cutLastWhere Text.isBlank trimmed with
  | some (before, _) =>
    Text.byteLength before + ((trimmed.drop before.length).head?.map Char.utf8Size).getD 1
  | none => 0

/-- Delete the blanks before the cursor and the word before them. -/
def deleteWordBackward? (b : LineBuffer) : Option LineBuffer := do
  let start := lastWordStart (← b.before?)
  return { text := ← b.without? start b.cursor, cursor := start }

/-- The line with the bytes from `start` up to the cursor replaced, and the cursor behind the
replacement. -/
def replaceBack? (b : LineBuffer) (start : Nat) (replacement : String) : Option LineBuffer := do
  let (before, _) ← Text.cutAtByte? start b.text.toList
  let (_, after) ← Text.cutAtByte? b.cursor b.text.toList
  return {
    text := .ofList before ++ replacement ++ .ofList after
    cursor := start + replacement.utf8ByteSize }

end LineBuffer

end TableShell
