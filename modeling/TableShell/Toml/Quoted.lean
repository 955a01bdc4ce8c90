import TableShell.Number.Integer
import TableShell.Toml.Scanner

/-!
# Quoted texts

A text stands between double quotes, where a backslash begins an escape, or between single quotes,
where every character stands for itself. Between three quotes of either kind it can go over several
lines, and a line feed right after the opening quotes does not count.

When a text is written, the first of these forms is chosen that needs no escapes: double quotes,
single quotes, three double quotes, three single quotes. Tabs are written as escapes between double
quotes of either number.
-/

namespace TableShell.Toml

/-! ### Characters -/

/-- Whether a character is a space or a tab. -/
def isSpace (c : Char) : Bool :=
  c == ' ' || c == '\t'

/-- Whether a character may stand in a text or a comment: a tab, or any but the ASCII controls. -/
def isTextChar (c : Char) : Bool :=
  c == '\t' || (0x20 ≤ c.toNat && c.toNat != 0x7F)

/-- The value of a hexadecimal digit. -/
def hexValue? (c : Char) : Option Nat :=
  if isDigit c then some (digitValue c)
  else if 'a' ≤ c && c ≤ 'f' then some (c.toNat - 'a'.toNat + 10)
  else if 'A' ≤ c && c ≤ 'F' then some (c.toNat - 'A'.toNat + 10)
  else none

/-- Whether a character is a hexadecimal digit. -/
def isHexDigit (c : Char) : Bool :=
  (hexValue? c).isSome

/-- The number written by digits in a base. -/
def valueInBase (base : Nat) (digits : List Char) : Nat :=
  digits.foldl (fun n c => base * n + (hexValue? c).getD 0) 0

/-- Read a line end: a line feed, with or without a carriage return before it. -/
def newline : Scanner Unit :=
  Scanner.char '\n' <|> Scanner.exactly "\r\n"

/-! ### Reading -/

/-- Read a character given by hexadecimal digits. -/
def codePoint (digits : Nat) : Scanner Char := do
  let n := valueInBase 16 (← Scanner.times digits isHexDigit)
  if n.isValidChar then return .ofNat n else failure

/-- Read an escape after its backslash. -/
def escape : Scanner Char := do
  match ← Scanner.satisfying fun _ => true with
  | 'b' => return '\x08'
  | 'f' => return '\x0c'
  | 'n' => return '\n'
  | 'r' => return '\r'
  | 't' => return '\t'
  | '"' => return '"'
  | '\\' => return '\\'
  | 'u' => codePoint 4
  | 'U' => codePoint 8
  | _ => failure

/-- Read a text between double quotes. -/
def basicText : Scanner (List Char) := do
  Scanner.char '"'
  let cs ← Scanner.many do
    match ← Scanner.satisfying fun c => isTextChar c && c != '"' with
    | '\\' => escape
    | c => return c
  Scanner.char '"'
  return cs

/-- Read a text between single quotes. -/
def literalText : Scanner (List Char) := do
  Scanner.char '\''
  let cs ← Scanner.runOf fun c => isTextChar c && c != '\''
  Scanner.char '\''
  return cs

/-- Read a space, a tab or a line end. -/
def gap : Scanner Unit :=
  newline <|> (do let _ ← Scanner.satisfying isSpace)

/-- Read the line ends, and the spaces before and after them, behind a backslash at the end of a
line. -/
def lineContinuation : Scanner (List Char) := do
  let _ ← Scanner.runOf isSpace
  newline
  let _ ← Scanner.many gap
  return []

/-- Read one or two quotes that do not close a text between three. -/
def innerQuotes (quote : Char) : Scanner (List Char) := do
  let quotes ← Scanner.runOf1 (· == quote)
  if quotes.length ≤ 2 then return quotes else failure

/-- Read the three quotes that close a text, with the at most two quotes of the text before
them. -/
def closingQuotes (quote : Char) : Scanner (List Char) := do
  let quotes ← Scanner.runOf1 (· == quote)
  if 3 ≤ quotes.length && quotes.length ≤ 5 then return quotes.drop 3 else failure

/-- Read a piece of a text of several lines. -/
def multilinePiece (quote : Char) (escapes : Bool) : Scanner (List Char) :=
  innerQuotes quote <|>
    (do newline; return ['\n']) <|>
    (do
      let c ← Scanner.satisfying isTextChar
      if c == quote then failure
      else if escapes && c == '\\' then
        lineContinuation <|> (do return [← escape])
      else return [c])

/-- Read a text of several lines. -/
def multilineText (quote : Char) (escapes : Bool) : Scanner (List Char) := do
  Scanner.exactly (.ofList [quote, quote, quote])
  let _ ← Scanner.optionally newline
  let pieces ← Scanner.many (multilinePiece quote escapes)
  let last ← closingQuotes quote
  return pieces.flatten ++ last

/-- Read a quoted text. -/
def quotedText : Scanner String := do
  let cs ← multilineText '"' true <|> basicText <|> multilineText '\'' false <|> literalText
  return .ofList cs

/-! ### Writing -/

/-- Whether a character can only be written as an escape: an ASCII control other than a tab and a
line feed. -/
def needsEscape (c : Char) : Bool :=
  c != '\t' && c != '\n' && !isTextChar c

/-- The length of the longest run of a character. -/
def longestRun (c : Char) (cs : List Char) : Nat :=
  (cs.foldl (fun (best, current) d =>
    let current := if d == c then current + 1 else 0
    (max best current, current)) (0, 0)).1

/-- Four hexadecimal digits. -/
def hexDigits4 (n : Nat) : List Char :=
  let digits := (Nat.toDigits 16 n).map Char.toUpper
  List.replicate (4 - digits.length) '0' ++ digits

/-- The escape of a character. -/
def escaped (c : Char) : List Char :=
  match c with
  | '\x08' => ['\\', 'b']
  | '\t' => ['\\', 't']
  | '\n' => ['\\', 'n']
  | '\x0c' => ['\\', 'f']
  | '\r' => ['\\', 'r']
  | '"' => ['\\', '"']
  | '\\' => ['\\', '\\']
  | _ => '\\' :: 'u' :: hexDigits4 c.toNat

/-- The characters of a text between double quotes. At most `maxQuotes` quotes in a row stand for
themselves; `quotes` counts those that do right before the text. -/
def escapedChars (maxQuotes : Nat) (multiline : Bool) : (quotes : Nat) → List Char → List Char
  | _, [] => []
  | quotes, c :: cs =>
    if c == '"' && quotes < maxQuotes then c :: escapedChars maxQuotes multiline (quotes + 1) cs
    else if c == '\n' && multiline then c :: escapedChars maxQuotes multiline 0 cs
    else if c == '"' || c == '\\' || !isTextChar c || c == '\t' then
      escaped c ++ escapedChars maxQuotes multiline 0 cs
    else c :: escapedChars maxQuotes multiline 0 cs

/-- Put quotes around a text, with a line feed after the opening ones if it has several lines. -/
def between (quotes : String) (lineFeed : Bool) (cs : List Char) : String :=
  quotes ++ (if lineFeed then "\n" else "") ++ .ofList cs ++ quotes

/-- Write a text between quotes. -/
def quote (text : String) : String :=
  let cs := text.toList
  let lineFeed := cs.contains '\n'
  let control := cs.any needsEscape
  let backslash := cs.contains '\\'
  let doubles := longestRun '"' cs
  let singles := longestRun '\'' cs
  if !control && !backslash && doubles == 0 && !lineFeed then
    between "\"" false (escapedChars 0 false 0 cs)
  else if !control && singles == 0 && !lineFeed then
    between "'" false cs
  else if !control && !backslash && doubles ≤ 2 then
    between "\"\"\"" lineFeed (escapedChars 2 true 0 cs)
  else if !control && singles ≤ 2 then
    between "'''" lineFeed cs
  else if lineFeed then
    between "\"\"\"" lineFeed (escapedChars 2 true 0 cs)
  else
    between "\"" false (escapedChars 0 false 0 cs)

end TableShell.Toml
