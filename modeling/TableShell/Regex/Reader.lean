import TableShell.Regex.Tree
import TableShell.Text.Blank

/-!
# Reading patterns

A pattern is read from its front, with the place of every character. Where a group has asked for
it, blanks and comments between the parts are skipped.
-/

namespace TableShell.Regex

/-- What is left to read of a pattern, and what has been seen so far. -/
structure Unread where
  rest : List Char
  place : Place := {}
  skipsBlanks : Bool := false
  /-- The names of groups and their places. -/
  names : List (List Char × Span) := []

/-- A reader of a part of a pattern, which may find a fault. -/
abbrev Reader := StateT Unread (Except Fault)

/-- The rest of a text behind blanks and comments. A comment goes from a number sign to the end of
its line. -/
def skipBlanksFrom : (inComment : Bool) → List Char → Place → List Char × Place
  | _, [], p => ([], p)
  | true, c :: cs, p => skipBlanksFrom (c != '\n') cs (p.after c)
  | false, c :: cs, p =>
    if Text.isBlank c then skipBlanksFrom false cs (p.after c)
    else if c == '#' then skipBlanksFrom true cs (p.after c)
    else (c :: cs, p)

namespace Reader

/-- Refuse the pattern. -/
def fault {α : Type} (kind : FaultKind) (span : Span) : Reader α :=
  throw { kind, span }

/-- The next character. -/
def peek? : Reader (Option Char) := do
  return (← get).rest.head?

/-- The character behind the next one. -/
def peekSecond? : Reader (Option Char) := do
  return (← get).rest.tail.head?

/-- Whether all is read. -/
def atEnd : Reader Bool := do
  return (← get).rest.isEmpty

/-- The place of the next character. -/
def place : Reader Place := do
  return (← get).place

/-- The part from a place to the next character. -/
def spanFrom (start : Place) : Reader Span := do
  return { start, stop := ← place }

/-- The part that the next character takes. -/
def charSpan : Reader Span := do
  let unread ← get
  match unread.rest with
  | [] => return unread.place.span
  | c :: _ => return { start := unread.place, stop := unread.place.after c }

/-- Read the next character. -/
def advance : Reader Unit := do
  let unread ← get
  match unread.rest with
  | [] => return
  | c :: rest => set { unread with rest, place := unread.place.after c }

/-- Skip blanks and comments, if they are to be skipped. -/
def skipBlanks : Reader Unit := do
  let unread ← get
  if unread.skipsBlanks then
    let (rest, place) := skipBlanksFrom false unread.rest unread.place
    set { unread with rest, place }

/-- Read the next character and what is to be skipped behind it. -/
def advanceAndSkip : Reader Unit := do
  advance
  skipBlanks

/-- Read a text if it comes next. -/
def exactly? (text : List Char) : Reader Bool := do
  let unread ← get
  if text.isPrefixOf unread.rest then
    set { unread with
      rest := unread.rest.drop text.length, place := text.foldl Place.after unread.place }
    return true
  else return false

/-- The character behind the next one and behind what is to be skipped between them. Of a comment
all but the first character that is no blank counts as skipped. -/
def peekBehindBlanks? : Reader (Option Char) := do
  let unread ← get
  let rest := unread.rest.tail
  if unread.skipsBlanks then
    match rest.dropWhile Text.isBlank with
    | '#' :: comment => return (comment.dropWhile Text.isBlank).head?.or (some '#')
    | c :: _ => return some c
    | [] => return rest.head?
  else return rest.head?

end Reader

end TableShell.Regex
