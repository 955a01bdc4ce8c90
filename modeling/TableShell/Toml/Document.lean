import TableShell.Toml.Scalar

/-!
# Documents

A document is a sequence of lines: headers, keys with their items, comments and blank lines. What
stands below a header belongs to the table that it names, and what stands above all headers to the
document itself.
-/

namespace TableShell.Toml

/-- The number of levels that keys with dots, arrays and tables in braces stay below. -/
def maxDepth : Nat := 80

/-! ### Comments and spaces -/

/-- Read spaces and tabs. -/
def spaces : Scanner Unit := do
  let _ ← Scanner.runOf isSpace

/-- Read a comment up to the end of its line. -/
def comment : Scanner Unit := do
  Scanner.char '#'
  let _ ← Scanner.runOf isTextChar

/-- Read spaces, line ends and comments that end with their lines. -/
def layout : Scanner Unit := do
  let _ ← Scanner.many (gap <|> (do comment; newline))

/-- Succeed at the end of the text only. -/
def textEnd : Scanner Unit := do
  if (← get).isEmpty then return else failure

/-- Read the end of a line with the comment before it, if there is one. -/
def lineEnd : Scanner Unit := do
  spaces
  let _ ← Scanner.optionally comment
  newline <|> textEnd

/-! ### Keys -/

/-- Whether a character may stand in a key without quotes. -/
def isKeyChar (c : Char) : Bool :=
  ('a' ≤ c && c ≤ 'z') || ('A' ≤ c && c ≤ 'Z') || isDigit c || c == '-' || c == '_'

/-- Read a part of a key, with the spaces around it. -/
def keyPart : Scanner String := do
  spaces
  let cs ← basicText <|> literalText <|> Scanner.runOf1 isKeyChar
  spaces
  return .ofList cs

/-- Read a key: the parts before its last dot, and the last part. -/
def key : Scanner (List String × String) := do
  let parts ← Scanner.separated keyPart (Scanner.char '.')
  if maxDepth ≤ parts.length then failure
  match parts.getLast? with
  | some last => return (parts.dropLast, last)
  | none => failure

/-! ### Items -/

/-- Read a key and the item behind its equals sign. -/
def assignment (item : Scanner Item) : Scanner Entries.Assignment := do
  let (path, last) ← key
  Scanner.char '='
  spaces
  return { path, key := last, item := ← item }

/-- Read an array. Its items can stand on lines of their own, and a comma may follow the last. -/
def array (item : Scanner Item) : Scanner Item := do
  let element : Scanner Item := do
    layout
    let i ← item
    layout
    return i
  let elements : Scanner (List Item) := do
    let items ← Scanner.separated element (Scanner.char ',')
    let _ ← Scanner.optionally (Scanner.char ',')
    return items
  Scanner.char '['
  let items ← elements <|> pure []
  layout
  Scanner.char ']'
  return .array items

/-- Read a table in braces. -/
def inlineTable (item : Scanner Item) : Scanner Item := do
  let element : Scanner Entries.Assignment := do
    let a ← assignment item
    spaces
    return a
  Scanner.char '\x7b'
  let assignments ← Scanner.separated element (Scanner.char ',') <|> pure []
  spaces
  Scanner.char '\x7d'
  match Entries.assign? [] assignments with
  | some entries => return .table .inline entries
  | none => failure

/-- Read an item with at most `depth` levels of arrays and tables in braces. -/
def item : (depth : Nat) → Scanner Item
  | 0 => scalar
  | depth + 1 => scalar <|> array (item depth) <|> inlineTable (item depth)

/-! ### Lines -/

/-- A header: the parts before its last dot, the last part, and whether it can be repeated. -/
structure Header where
  path : List String
  key : String
  repeatable : Bool
  deriving DecidableEq, Repr

/-- A line. -/
inductive Line where
  | blank
  | header (h : Header)
  | assignment (a : Entries.Assignment)

/-- Read a header between its brackets. -/
def header : Scanner Header := do
  Scanner.char '['
  let repeated ← Scanner.optionally (Scanner.char '[')
  let (path, key) ← key
  Scanner.char ']'
  if repeated.isSome then Scanner.char ']'
  return { path, key, repeatable := repeated.isSome }

/-- Read a line from its first character that is not a space. -/
def line : Scanner Line := do
  match ← Scanner.peek? with
  | some '#' =>
    lineEnd
    return .blank
  | some '\n' =>
    newline
    return .blank
  | some '\r' =>
    newline
    return .blank
  | some '[' =>
    let h ← header
    lineEnd
    return .header h
  | _ =>
    let a ← assignment (item (maxDepth - 1))
    lineEnd
    return .assignment a

/-- Read the lines of a document. A byte order mark at its start does not count. -/
def lines : Scanner (List Line) := do
  let _ ← Scanner.optionally (Scanner.char '\ufeff')
  spaces
  let read ← Scanner.many do
    let l ← line
    spaces
    return l
  textEnd
  return read

/-! ### Sections -/

/-- The lines below a header. -/
structure Section where
  header : Header
  assignments : List Entries.Assignment

/-- The keys above all headers, and the sections below them. -/
def sections : List Line → List Entries.Assignment × List Section
  | [] => ([], [])
  | .blank :: rest => sections rest
  | .assignment a :: rest =>
    let (above, below) := sections rest
    (a :: above, below)
  | .header h :: rest =>
    let (above, below) := sections rest
    ([], { header := h, assignments := above } :: below)

/-- Add a section to a document. -/
def addSection? (entries : Entries) (s : Section) : Option Entries :=
  let change := if s.header.repeatable then Entries.append? else Entries.define?
  entries.changeAt? (change s.header.key s.assignments) s.header.path

/-- Read a document. -/
def parse? (text : String) : Option Entries := do
  let (above, below) := sections (← Scanner.all? lines text.toList)
  below.foldlM addSection? (← Entries.assign? [] above)

end TableShell.Toml
