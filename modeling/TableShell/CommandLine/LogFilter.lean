import TableShell.Number.Integer
import TableShell.Number.Reading
import TableShell.Regex.Checking
import TableShell.Text.Alphanumeric
import TableShell.Text.Ascii
import TableShell.Text.Blank
import TableShell.Text.Offset

/-!
# Log filters

What is to be logged is given by directives separated by commas: a level, a target, a target with a
level, or a span in brackets with a field in braces. The value of a field is a word for a truth
value, a number, or a pattern. Only the form of a filter matters here.
-/

namespace TableShell.CommandLine.LogFilter

/-! ### Faults -/

/-- What is wrong with a filter. -/
inductive Fault where
  /-- Something is no directive. -/
  | directive
  /-- A level has neither a name nor a number of a level. -/
  | level
  /-- The value of a field is a pattern that cannot be used. -/
  | field (pattern : List Char) (fault : Regex.BuildFault)
  deriving DecidableEq, Repr

/-- The reasons why a pattern cannot be used, from the outermost on. -/
def patternReasons (pattern : List Char) : Regex.BuildFault → List String
  | .pattern fault => ["error building NFA", "error parsing regex", fault.render pattern]
  | .wordBorder =>
    ["unsupported regex feature for DFAs: cannot build DFAs for regexes with Unicode word " ++
      "boundaries; switch to ASCII word boundaries, or heuristically enable Unicode word " ++
      "boundaries or use a different regex engine"]

/-- The words for what is wrong with a level. -/
def levelReason : String :=
  "error parsing level filter: expected one of \"off\", \"error\", \"warn\", \"info\", " ++
    "\"debug\", \"trace\", or a number 0-5"

/-- The reasons for a fault, from the outermost on. A fault of a part is named twice, as the fault
of its directive and by itself. -/
def Fault.reasons : Fault → List String
  | .directive => ["invalid filter directive"]
  | .level => [levelReason, levelReason]
  | .field pattern fault =>
    let reasons := patternReasons pattern fault
    (reasons.take 1).map ("invalid field filter: " ++ ·) ++ reasons

/-- The words for a fault. -/
def Fault.message (f : Fault) : String :=
  ": ".intercalate f.reasons

/-! ### Levels and fields -/

/-- Whether a text is the name or the number of a level. -/
def isLevel (text : String) : Bool :=
  ["off", "error", "warn", "info", "debug", "trace"].contains (Text.asciiLower text) ||
    ((readWord? text).any (· ≤ 5))

/-- Check the level of a directive, which may be left out. -/
def checkLevel (text : List Char) : Except Fault Unit :=
  if text.isEmpty || isLevel (.ofList text) then return else throw .level

/-- Check the value of a field. -/
def checkValue (value : List Char) : Except Fault Unit :=
  if (Binary64.readChars? value).isSome then return
  else
    match Regex.buildFault? value with
    | some fault => throw (.field value fault)
    | none => return

/-- Check a field of a span: a name, which may have a value behind an equals sign. What follows
another equals sign does not matter. -/
def checkField (text : List Char) : Except Fault Unit :=
  match text.splitOn '=' with
  | _ :: value :: _ => checkValue value
  | _ => if text.isEmpty then throw .directive else return

/-! ### Directives -/

/-- How far a directive has been read. -/
inductive State where
  | start
  /-- In a target or a level. -/
  | name
  /-- In a span. -/
  | span
  /-- In the field of a span that starts at a byte. -/
  | field (start : Nat)
  /-- Behind the field of a span. -/
  | afterField
  /-- Behind a span. -/
  | afterSpan
  /-- In the level that starts at a byte, behind an equals sign. -/
  | level (start : Nat)
  deriving DecidableEq, Repr

/-- Read the character at byte `i` of a directive with the given text. -/
def step (text : List Char) (i : Nat) : State → Char → Except Fault State
  | .start, '[' => return .span
  | .start, c =>
    if Text.isAlphanumeric c || c == '-' || c == ':' || c == '_' then return .name
    else throw .directive
  | .name, '=' => return .level (i + 1)
  | .name, '[' => return .span
  | .name, _ => return .name
  | .span, ']' => return .afterSpan
  | .span, '\x7b' => return .field (i + 1)
  | .span, _ => return .span
  | .field start, '\x7d' => do
    checkField (Text.fromByte start (Text.beforeByte i text))
    return .afterField
  | .field start, _ => return .field start
  | .afterField, ']' => return .afterSpan
  | .afterField, _ => throw .directive
  | .afterSpan, '=' => return .level (i + 1)
  | .afterSpan, _ => throw .directive
  | .level start, _ => return .level start

/-- Read characters from byte `i` on. -/
def readFrom (text : List Char) : (i : Nat) → State → List Char → Except Fault State
  | _, state, [] => return state
  | i, state, c :: rest => do
    readFrom text (i + c.utf8Size) (← step text i state c) rest

/-- Check that a directive can end here. -/
def checkEnd (text : List Char) : State → Except Fault Unit
  | .name | .afterSpan => return
  | .level start => checkLevel (Text.fromByte start text)
  | _ => throw .directive

/-- Check a directive. Its parts are found in the text without the blanks at its ends, and are
taken from the same bytes of the whole text; so a level with a blank on either side is none, and
blanks in front of the directive shift all its parts. -/
def checkDirective (text : List Char) : Except Fault Unit := do
  checkEnd text (← readFrom text 0 .start (Text.trimChars text))

/-- Check a filter. Its directives that are not empty are checked one after the other; there may be
none. -/
def check (filter : String) : Except Fault Unit :=
  ((filter.toList.splitOn ',').filter fun text => !text.isEmpty).forM checkDirective

end TableShell.CommandLine.LogFilter
