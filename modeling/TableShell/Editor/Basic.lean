import TableShell.Completion.Suggestion
import TableShell.Editor.Event
import TableShell.Editor.LineBuffer

/-!
# The line editor

The state of the editor between events, and what every event does to it. The editor does not touch
the terminal.

The tab key tries the candidates for the word at the cursor one after the other; what was typed is
kept until a candidate is taken or dropped. The arrow keys walk through earlier lines; the line
that was left is kept as well. What is suggested never becomes part of the line unless it is taken
up.

Cutting a line off its boundaries, or asking a list for an entry that it does not have, is an error
of the editor. So is a context that cannot be told.
-/

namespace TableShell

/-- The candidates that are tried for a word, and the line as it was before. -/
structure Cycle where
  typed : LineBuffer
  candidates : List String
  index : Nat := 0
  /-- The byte from which on a candidate replaces the line up to the cursor. -/
  replaceFrom : Nat
  deriving DecidableEq, Repr

/-- A walk through earlier lines, newest first, and the line as it was before. -/
structure Walk where
  snapshot : LineBuffer
  entries : List String
  index : Nat := 0
  deriving DecidableEq, Repr

/-- The state of the editor. -/
structure Editor where
  line : LineBuffer := {}
  suggestion : Option Suggestion := none
  /-- The candidates that are being tried. -/
  cycle? : Option Cycle := none
  /-- The walk through earlier lines. -/
  walk? : Option Walk := none
  /-- Whether a candidate has been taken, so that the next enter submits the line. -/
  armed : Bool := false
  /-- The lines submitted in this session, newest first. -/
  ring : List String := []
  /-- The number of lines that the ring can hold. -/
  ringSize : Nat := 50
  /-- Whether suggestions are made. -/
  suggesting : Bool := true
  deriving DecidableEq, Repr

/-- What is to be done after an event. -/
inductive Outcome where
  /-- Go on editing. -/
  | proceed
  | submit (line : String)
  /-- The line was abandoned. -/
  | cancel
  /-- The shell is to be left. -/
  | exit
  | clearScreen
  deriving DecidableEq, Repr

/-- Whether the line is done with. -/
def Outcome.endsLine : Outcome → Bool
  | submit _ => true
  | cancel => true
  | exit => true
  | proceed => false
  | clearScreen => false

/-- Go on to the next candidate, and from the last to the first. -/
def Cycle.advance? (c : Cycle) : Option Cycle :=
  if c.candidates.isEmpty then none
  else some { c with index := (c.index + 1) % c.candidates.length }

namespace Editor

/-! ### Views -/

/-- The text of the suggestion that is shown behind the line. -/
def ghost? (e : Editor) : Option String :=
  e.suggestion.map Suggestion.ghost

/-- The bytes of the line that hold the candidate that is being tried. -/
def cycledRange? (e : Editor) : Option (Nat × Nat) :=
  e.cycle?.map fun cycle => (cycle.replaceFrom, e.line.cursor)

/-! ### The line -/

/-- Drop the line and all that belongs to it. The ring stays. -/
def resetLine (e : Editor) : Editor :=
  { e with line := {}, suggestion := none, cycle? := none, walk? := none, armed := false }

/-- Change the line by editing it, which ends a walk and calls for an enter to submit. -/
def edit (e : Editor) (change : LineBuffer → Option LineBuffer) : Except ContextError Editor := do
  let line ← ContextError.offBoundary.unless (change e.line)
  return { e with line, walk? := none, armed := false }

/-- Stop trying candidates and keep the line as shown. -/
def settle (e : Editor) : Editor :=
  { e with cycle? := none }

/-- Stop trying candidates and return to what was typed. -/
def restore (e : Editor) : Editor :=
  match e.cycle? with
  | some cycle => { e with line := cycle.typed, cycle? := none }
  | none => e

/-- Stop trying candidates; where none are tried, edit the line. -/
def restoreOrEdit (e : Editor) (change : LineBuffer → Option LineBuffer) :
    Except ContextError Editor :=
  match e.cycle? with
  | some _ => .ok e.restore
  | none => e.edit change

/-- Move the cursor, which keeps the candidate that is shown. -/
def move (e : Editor) (motion : LineBuffer → Option LineBuffer) : Except ContextError Editor := do
  let line ← ContextError.offBoundary.unless (motion e.line)
  return { e.settle with line }

/-! ### Candidates -/

/-- Show the current candidate of a cycle in place of the word. -/
def showCandidate (e : Editor) (cycle : Cycle) : Except ContextError Editor :=
  match cycle.candidates[cycle.index]? with
  | some candidate => do
    let line ← ContextError.offBoundary.unless
      (cycle.typed.replaceBack? cycle.replaceFrom candidate)
    return { e with line, cycle? := some cycle }
  | none => .ok { e with cycle? := some cycle }

/-- Try the first candidate, or the next one. -/
def tab (e : Editor) (s : Suggester) : Except ContextError Editor :=
  match e.cycle? with
  | some cycle => do
    let cycle ← ContextError.noEntry.unless cycle.advance?
    e.showCandidate cycle
  | none => do
    let completion ← s.complete e.line.text e.line.cursor
    if completion.candidates.isEmpty then return e
    else
      showCandidate { e with walk? := none, armed := false }
        { typed := e.line
          candidates := completion.candidates
          replaceFrom := completion.replaceFrom }

/-! ### Earlier lines -/

/-- The lines that can be walked through: those of the ring and then those of the history, newest
first and each only once. The history is given from its oldest line on. -/
def walkEntries (e : Editor) (history : List String) : List String :=
  Suggester.unique (e.ring ++ history.reverse)

/-- Show the current entry of a walk. -/
def showEntry (e : Editor) (walk : Walk) : Except ContextError Editor := do
  let entry ← ContextError.noEntry.unless walk.entries[walk.index]?
  return { e with line := .atEnd entry, walk? := some walk }

/-- Go to the next older line, if there is one. -/
def older (e : Editor) (history : List String) : Except ContextError Editor :=
  match e.walk? with
  | some walk =>
    if walk.entries.length ≤ walk.index + 1 then .ok e
    else e.showEntry { walk with index := walk.index + 1 }
  | none =>
    let entries := e.walkEntries history
    if entries.isEmpty then .ok e else e.showEntry { snapshot := e.line, entries }

/-- Go to the next newer line, and from the newest back to the line that was left. -/
def newer (e : Editor) : Except ContextError Editor :=
  match e.walk? with
  | some walk =>
    if walk.index == 0 then .ok { e with line := walk.snapshot, walk? := none }
    else e.showEntry { walk with index := walk.index - 1 }
  | none => .ok e

/-! ### Single events -/

/-- Put a line into the ring, unless it is blank or the same as the newest one. -/
def remember (e : Editor) (line : String) : Editor :=
  if 0 < e.ringSize && !Text.isBlankText line && e.ring.head? != some line then
    { e with ring := (line :: e.ring).take e.ringSize }
  else e

/-- Submit the line; where a candidate is being tried, take it instead. -/
def enter (e : Editor) : Editor × Outcome :=
  match e.cycle? with
  | some _ => ({ e with cycle? := none, armed := true }, .proceed)
  | none => (e.resetLine.remember e.line.text, .submit e.line.text)

/-- Take up a suggestion that comes from the history. -/
def acceptSuggestion (e : Editor) : Editor :=
  match e.suggestion with
  | some { accepted, source := .history, .. } =>
    { e with line := .atEnd accepted, suggestion := none, walk? := none, armed := false }
  | _ => e

/-- Drop the candidates, or else the walk, and the suggestion. -/
def escape (e : Editor) : Editor :=
  match e.cycle?, e.walk? with
  | some _, _ => { e.restore with suggestion := none }
  | none, some walk => { e with line := walk.snapshot, walk? := none, suggestion := none }
  | none, none => { e with suggestion := none }

/-- What an event does, apart from the suggestion. -/
def apply (e : Editor) (s : Suggester) (history : List String) (event : Event) :
    Except ContextError (Editor × Outcome) :=
  match event with
  | .printable c => (e.restore.edit (·.insert? c)).map (·, .proceed)
  | .backspace => (e.restoreOrEdit (·.deleteBackward?)).map (·, .proceed)
  | .deleteWord => (e.restoreOrEdit (·.deleteWordBackward?)).map (·, .proceed)
  | .delete => (e.restoreOrEdit (·.deleteForward?)).map (·, .proceed)
  | .endOfInput =>
    if e.line.text.isEmpty then .ok (e, .exit)
    else (e.restoreOrEdit (·.deleteForward?)).map (·, .proceed)
  | .tab => (e.tab s).map (·, .proceed)
  | .enter => .ok e.enter
  | .shiftEnter => .ok (e.acceptSuggestion, .proceed)
  | .up => (e.settle.older history).map (·, .proceed)
  | .down => e.settle.newer.map (·, .proceed)
  | .left => (e.move (·.moveLeft?)).map (·, .proceed)
  | .right => (e.move (·.moveRight?)).map (·, .proceed)
  | .home => (e.move fun b => some b.moveHome).map (·, .proceed)
  | .lineEnd => (e.move fun b => some b.moveEnd).map (·, .proceed)
  | .escape => .ok (e.escape, .proceed)
  | .interrupt => .ok (e.resetLine, .cancel)
  | .clearScreen => .ok (e, .clearScreen)

/-! ### Events and suggestions -/

/-- Make a suggestion for the line. There is none while candidates are tried or earlier lines
walked through, and none unless the cursor stands at the end. -/
def refresh (e : Editor) (s : Suggester) : Except ContextError Editor :=
  if e.suggesting && e.cycle?.isNone && e.walk?.isNone && e.line.isAtEnd then
    (s.suggest e.line.text e.line.cursor).map fun suggestion => { e with suggestion }
  else .ok { e with suggestion := none }

/-- What an event does. After an escape there is no suggestion until the next event. -/
def handle (e : Editor) (s : Suggester) (history : List String) (event : Event) :
    Except ContextError (Editor × Outcome) := do
  let (e, outcome) ← e.apply s history event
  if outcome.endsLine || event == .escape then return (e, outcome)
  else return (← e.refresh s, outcome)

end Editor

end TableShell
