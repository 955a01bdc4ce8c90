import TableShell.Regex.Reader
import TableShell.Number.Integer

/-!
# Escape sequences

What a backslash and the characters behind it stand for: a character, a class of characters, or a
condition on the place. A filter leaves no closing brace in a pattern, so an escape sequence with
a brace is never complete.
-/

namespace TableShell.Regex

/-- Whether a character has a meaning of its own in a pattern. -/
def isMeta (c : Char) : Bool :=
  ['\\', '.', '+', '*', '?', '(', ')', '|', '[', ']', '\x7b', '\x7d', '^', '$', '#', '&', '-',
    '~'].contains c

/-- Whether a backslash before a character makes it stand for itself: letters, digits and angles
are kept for other meanings. -/
def isEscapable (c : Char) : Bool :=
  c.toNat < 0x80 && !c.isAlphanum && c != '<' && c != '>'

/-- The value of a hexadecimal digit. -/
def hexDigit? (c : Char) : Option Nat :=
  if isDigit c then some (digitValue c)
  else if 'a' ≤ c && c ≤ 'f' then some (c.toNat - 'a'.toNat + 10)
  else if 'A' ≤ c && c ≤ 'F' then some (c.toNat - 'A'.toNat + 10)
  else none

/-- The character with a number, if there is one. -/
def charWithNumber? (n : Nat) : Option Char :=
  if n < 0xD800 || (0xE000 ≤ n && n < 0x110000) then some (.ofNat n) else none

/-- The control characters that are written as a letter. -/
def controlLetter? : Char → Option Char
  | 'a' => some '\x07'
  | 'f' => some '\x0C'
  | 't' => some '\t'
  | 'n' => some '\n'
  | 'r' => some '\r'
  | 'v' => some '\x0B'
  | _ => none

namespace Reader

/-! ### Hexadecimal digits -/

/-- Read `count` more digits of a number, the first of which comes next. -/
def hexDigits : (count value : Nat) → Reader Nat
  | 0, value => return value
  | count + 1, value => do
    match ← peek? with
    | none => fault .escapeAtEnd (← place).span
    | some c =>
      match hexDigit? c with
      | none => fault .escapeHexDigit (← charSpan)
      | some digit =>
        advanceAndSkip
        hexDigits count (16 * value + digit)

/-- Read digits behind an opening brace, of which there are at most `limit`, to the end of the
pattern. -/
def bracedHexDigits (brace : Place) : (limit : Nat) → Reader Unit
  | 0 => return
  | limit + 1 => do
    advanceAndSkip
    match ← peek? with
    | none => fault .escapeAtEnd (← spanFrom brace)
    | some c =>
      if (hexDigit? c).isNone then fault .escapeHexDigit (← charSpan)
      else bracedHexDigits brace limit

/-- Read a character given by its number, from the letter that says how many digits it has. -/
def hexEscape (start : Place) (digits : Nat) : Reader Node := do
  advanceAndSkip
  match ← peek? with
  | none => fault .escapeAtEnd (← place).span
  | some '\x7b' =>
    bracedHexDigits (← place) (← get).rest.length
    fault .escapeAtEnd (← place).span
  | some _ =>
    let first ← place
    let value ← hexDigits digits 0
    match charWithNumber? value with
    | none => fault .escapeHexInvalid (← spanFrom first)
    | some char => return .literal { span := ← spanFrom start, char, asByte := digits == 2 }

/-! ### Classes and borders -/

/-- Skip to the end of the pattern, which holds at most `limit` more characters. -/
def skipAll : (limit : Nat) → Reader Unit
  | 0 => return
  | limit + 1 => do
    advanceAndSkip
    if !(← atEnd) then skipAll limit

/-- Read the name of a class of characters with a property, from the letter in front of it. -/
def propertyEscape (start : Place) : Reader Node := do
  advanceAndSkip
  match ← peek? with
  | none => fault .escapeAtEnd (← place).span
  | some '\x7b' =>
    skipAll (← get).rest.length
    fault .escapeAtEnd (← place).span
  | some '\\' => fault .unicodeClassInvalid (← charSpan)
  | some _ =>
    advanceAndSkip
    return .property (← spanFrom start)

/-- Read the letters and hyphens of a kind of word border, of which there are at most `limit`. -/
def borderName : (limit : Nat) → Reader Unit
  | 0 => return
  | limit + 1 => do
    if (← peek?).any fun c => c.isAlpha || c == '-' then
      advanceAndSkip
      borderName limit

/-- Read what stands behind the sign for a word border. An opening brace may begin a kind of
border, unless no letter follows it. -/
def wordBorder (start : Place) (span : Span) : Reader Node := do
  if (← peek?) == some '\x7b' then
    let brace ← get
    advanceAndSkip
    match ← peek? with
    | none => fault .wordBoundaryAtEnd (← spanFrom start)
    | some c =>
      if c.isAlpha || c == '-' then
        borderName brace.rest.length
        fault .wordBoundaryUnclosed (← spanFrom brace.place)
      else set brace
  return .look span true

/-! ### All sequences -/

/-- Read an escape sequence, from its backslash. -/
def escape : Reader Node := do
  let start ← place
  advance
  match ← peek? with
  | none => fault .escapeAtEnd (← spanFrom start)
  | some c =>
    if isDigit c then
      fault .backreference { start, stop := (← charSpan).stop }
    else if c == 'x' then hexEscape start 2
    else if c == 'u' then hexEscape start 4
    else if c == 'U' then hexEscape start 8
    else if c == 'p' || c == 'P' then propertyEscape start
    else
      advance
      let span ← spanFrom start
      if ['d', 's', 'w'].contains c then return .shorthand span false
      else if ['D', 'S', 'W'].contains c then return .shorthand span true
      else if isMeta c || isEscapable c then return .literal { span, char := c }
      else if c == 'A' || c == 'z' then return .look span false
      else if c == 'b' then wordBorder start span
      else if c == 'B' || c == '<' || c == '>' then return .look span true
      else
        match controlLetter? c with
        | some char => return .literal { span, char }
        | none => fault .escapeUnrecognized span

/-- Read a part that is not grouped, repeated or bracketed, from its first character `c`. -/
def primitive (c : Char) : Reader Node := do
  if c == '\\' then escape
  else
    let span ← charSpan
    advance
    return match c with
      | '.' => .dot span
      | '^' | '$' => .look span false
      | _ => .literal { span, char := c }

end Reader

end TableShell.Regex
