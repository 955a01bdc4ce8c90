import TableShell.Grammar
import TableShell.Line.Words
import TableShell.Text.Lowercase
import TableShell.Text.Offset
import TableShell.Text.Search

/-!
# The context of the cursor

What is being typed at the cursor of a line: the word there, and what the completed words before it
make of it. Only the text before the cursor counts. A cursor that is inside a character or past
the end is moved down to the nearest boundary.

A word starts one byte after the last boundary character before the cursor. Where that character
takes more than one byte, the position is inside it, and the context cannot be told.
-/

namespace TableShell

/-- Why a line cannot be worked on. -/
inductive ContextError where
  /-- The word at the cursor would start inside a character. -/
  | insideCharacter
  /-- A line is cut at a byte that is not a boundary of it. -/
  | offBoundary
  /-- An entry is asked for that a list does not have. -/
  | noEntry
  deriving DecidableEq, Repr

/-- The value that an operation on a line has, where it has one. -/
def ContextError.unless {α : Type} (error : ContextError) : Option α → Except ContextError α
  | some a => .ok a
  | none => .error error

/-- What the word at the cursor is. -/
inductive Role where
  /-- The first word of the line. -/
  | command
  /-- An argument of the command, after the arguments `done`. -/
  | argument (done : List String)
  /-- The first word of a later stage; `begun` when it has characters already. -/
  | filterName (begun : Bool)
  /-- An argument of a filter, after the arguments `done`. -/
  | filterArgument (filter : FilterDef) (done : List String)
  /-- A further word of a later stage whose first word names no filter, after the words `done`. -/
  | unknown (done : List String)
  deriving DecidableEq, Repr

/-- The context of a cursor. -/
structure Context where
  /-- The first word of the line once it is complete, else empty. -/
  command : String
  role : Role
  /-- The filters of the stages strictly between the first and the last, in lower case. -/
  used : List String
  /-- The word at the cursor, which begins after a blank, a bar or a path separator. -/
  word : String
  /-- The argument at the cursor, which begins after a blank or a bar. -/
  argument : String
  deriving DecidableEq, Repr

namespace Context

/-! ### The word at the cursor -/

/-- Whether a character separates the pieces of a path. -/
def isSeparator (c : Char) : Bool :=
  c == '/' || c == '\\'

/-- Whether an argument ends at a character. -/
def endsArgument (c : Char) : Bool :=
  Text.isBlank c || c == '|'

/-- Whether a word ends at a character. -/
def endsWord (c : Char) : Bool :=
  endsArgument c || isSeparator c

/-- The byte after the start of the last character of a text that satisfies `ends`, or the start of
the text. -/
def startAfter (ends : Char → Bool) (text : List Char) : Nat :=
  match Text.cutLastWhere ends text with
  | some (head, _) => Text.byteLength head + 1
  | none => 0

/-- The text from a byte on, which has to be a boundary. -/
def textFrom (start : Nat) (text : List Char) : Except ContextError (List Char) :=
  match Text.cutAtByte? start text with
  | some (_, after) => .ok after
  | none => .error .insideCharacter

/-- The text from `startAfter`, which has to be a boundary. -/
def textAfter (ends : Char → Bool) (text : List Char) : Except ContextError (List Char) :=
  textFrom (startAfter ends text) text

/-- The directory part of an argument, up to its last separator, and the name behind it. -/
def splitPath (argument : List Char) : List Char × List Char :=
  match Text.cutLastWhere isSeparator argument with
  | some (dir, name) => (dir ++ (argument.drop dir.length).take 1, name)
  | none => ([], argument)

/-- The word and the argument at the end of a text. In an open quote, only path separators end a
word. -/
def wordAndArgument (text : List Char) : Except ContextError (List Char × List Char) := do
  let word ← textAfter endsWord text
  let argument ← textAfter endsArgument text
  match Line.openQuote? text with
  | some quote => do
    let quoted ← textFrom (quote + 1) text
    return (← textAfter isSeparator quoted, quoted)
  | none => return (word, argument)

/-! ### The words before the cursor -/

/-- The place of the last bar among tokens. It is looked for from their end. -/
def lastBar? (tokens : List String) : Option Nat :=
  (tokens.reverse.findIdx? fun token => token == "|").map fun i => tokens.length - 1 - i

/-- The role of the word at the end of the first stage, after the words `done`. -/
def roleInFirst (done : List String) : Role :=
  match done with
  | [] => .command
  | _ :: args => .argument args

/-- The role of the word at the end of a later stage, after the words `done`. -/
def roleInLater (g : Grammar) (done : List String) (begun : Bool) : Role :=
  match done with
  | [] => .filterName begun
  | name :: args =>
    match g.filter? name with
    | some filter => .filterArgument filter args
    | none => .unknown done

/-- The filters named by the tokens that follow a bar, in lower case. -/
def usedFilters (g : Grammar) (tokens : List String) : List String :=
  let pairs := (tokens.zip tokens.tail).filter fun (before, _) => before == "|"
  (pairs.map fun (_, name) => Text.lowercase name).filter g.isFilter

/-- The command and the role of the word at the end of a text, and the filters before it. What
counts are the completed tokens and the last bar among them: behind it stands the stage of the word,
in front of it the stages before. -/
def commandAndRole (g : Grammar) (text : List Char) : String × Role × List String :=
  let tokens := Line.tokens text
  let begun := Line.endsInWord text
  let completed := Line.completedTokens text
  let command := (completed.head?.filter fun token => token != "|").getD ""
  match lastBar? completed with
  | none => (command, roleInFirst completed, [])
  | some bar =>
    (command, roleInLater g (completed.drop (bar + 1)) begun, usedFilters g (tokens.take bar))

/-! ### The context -/

/-- The context at the end of a text. -/
def ofText (g : Grammar) (text : List Char) : Except ContextError Context := do
  let (word, argument) ← wordAndArgument text
  let (command, role, used) := commandAndRole g text
  return { command, role, used, word := .ofList word, argument := .ofList argument }

/-- The context of a cursor in a line. -/
def parse (g : Grammar) (line : String) (cursor : Nat) : Except ContextError Context :=
  ofText g (Text.beforeByte cursor line.toList)

/-- The byte at which the word at the cursor starts. -/
def wordStart (c : Context) (cursor : Nat) : Nat :=
  cursor - c.word.utf8ByteSize

/-! ### Questions about the role -/

/-- Whether a bar stands before the cursor. -/
def isPiped (c : Context) : Bool :=
  match c.role with
  | .command => false
  | .argument _ => false
  | _ => true

/-- Whether the name of a filter is being typed. -/
def isFilterName (c : Context) : Bool :=
  match c.role with
  | .filterName _ => true
  | _ => false

/-- Whether a stage has been opened in which nothing has been typed. -/
def isAfterBar (c : Context) : Bool :=
  c.role == .filterName false

/-- The number of completed words in the stage of the cursor. -/
def wordIndex (c : Context) : Nat :=
  match c.role with
  | .command => 0
  | .argument done => done.length + 1
  | .filterName _ => 0
  | .filterArgument _ done => done.length + 1
  | .unknown done => done.length

/-- The completed arguments of a command in a line without bars. -/
def commandArgs (c : Context) : List String :=
  match c.role with
  | .argument done => done
  | _ => []

/-- The filter whose arguments are being typed. -/
def filter? (c : Context) : Option FilterDef :=
  match c.role with
  | .filterArgument filter _ => some filter
  | _ => none

/-- The completed arguments of the filter. -/
def filterArgs (c : Context) : List String :=
  match c.role with
  | .filterArgument _ done => done
  | _ => []

/-- The command whose table the filters work on; empty in a line without bars. -/
def source (c : Context) : String :=
  if c.isPiped then c.command else ""

/-- The completed argument of the filter at an index, or an empty text. -/
def filterArg (c : Context) (index : Nat) : String :=
  (c.filterArgs[index]?).getD ""

end Context

end TableShell
