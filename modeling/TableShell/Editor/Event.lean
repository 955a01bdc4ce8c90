import TableShell.Text.Ascii
import TableShell.Text.CharWidth

/-!
# Keys and events

The keys of a terminal, and the events that the line editor knows. Every chord of a key with
modifiers means at most one event.
-/

namespace TableShell

/-- A key. -/
inductive Key where
  | enter
  | tab
  | backspace
  | delete
  | up
  | down
  | left
  | right
  | home
  | lineEnd
  | escape
  | char (c : Char)
  /-- A key without a use. -/
  | other
  deriving DecidableEq, Repr

/-- The modifiers that are held down with a key. -/
structure Modifiers where
  control : Bool := false
  alt : Bool := false
  shift : Bool := false
  deriving DecidableEq, Repr

/-- What happens to a key. -/
inductive KeyMotion where
  | press
  /-- A key that is held down acts like one that is pressed again. -/
  | hold
  | release
  deriving DecidableEq, Repr

/-- An event of the line editor. -/
inductive Event where
  | printable (c : Char)
  | backspace
  /-- Delete the word before the cursor. -/
  | deleteWord
  | delete
  | tab
  | enter
  /-- Take up the suggestion. -/
  | shiftEnter
  | up
  | down
  | left
  | right
  | home
  | lineEnd
  | escape
  /-- Abandon the line. -/
  | interrupt
  /-- Leave the shell, or delete a character. -/
  | endOfInput
  | clearScreen
  deriving DecidableEq, Repr

namespace Event

/-- The event of a character typed together with the control key. -/
def ofControl? (c : Char) : Option Event :=
  match c.toLower with
  | 'c' => some interrupt
  | 'd' => some endOfInput
  | 'l' => some clearScreen
  | 'w' => some deleteWord
  | 'h' => some deleteWord
  | 'a' => some home
  | 'e' => some lineEnd
  | _ => none

/-- The event of a character. Control and alt together type a character, as on keyboards that need
both for some of their signs; alt alone has no use. -/
def ofChar? (m : Modifiers) (c : Char) : Option Event :=
  if m.control && m.alt && !Text.isControl c then some (printable c)
  else if m.control then ofControl? c
  else if m.alt || Text.isControl c then none
  else some (printable c)

/-- The event of a key that is pressed. -/
def ofPress? (m : Modifiers) : Key → Option Event
  | .enter => some (if m.shift then shiftEnter else enter)
  | .tab => some tab
  | .backspace => some (if m.control || m.alt then deleteWord else backspace)
  | .delete => some delete
  | .up => some up
  | .down => some down
  | .left => some left
  | .right => some right
  | .home => some home
  | .lineEnd => some lineEnd
  | .escape => some escape
  | .char c => ofChar? m c
  | .other => none

/-- The event of a key. Nothing happens when a key is let go. -/
def ofKey? (motion : KeyMotion) (m : Modifiers) (key : Key) : Option Event :=
  if motion == .release then none else ofPress? m key

end Event

end TableShell
