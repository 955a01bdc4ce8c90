import TableShell.Text.Search

/-!
# Faults of patterns

What can be wrong with a regular expression, where in the pattern, and how that is shown: the
pattern with a row of carets below the place, followed by the kind of fault. A pattern of several
lines is shown with numbered lines between two rulers.
-/

namespace TableShell.Regex

/-! ### Places -/

/-- A place in a pattern, between two characters: its line and column, both counted from one. -/
structure Place where
  line : Nat := 1
  column : Nat := 1
  deriving DecidableEq, Repr

/-- The place behind a character. -/
def Place.after (p : Place) (c : Char) : Place :=
  if c == '\n' then { line := p.line + 1 } else { p with column := p.column + 1 }

/-- Whether one place is in front of another. -/
def Place.isBefore (p q : Place) : Bool :=
  p.line < q.line || (p.line == q.line && p.column < q.column)

/-- A part of a pattern. -/
structure Span where
  start : Place
  stop : Place
  deriving DecidableEq, Repr

/-- The empty part at a place. -/
def Place.span (p : Place) : Span :=
  { start := p, stop := p }

/-- Whether a part lies within one line. -/
def Span.isOneLine (s : Span) : Bool :=
  s.start.line == s.stop.line

/-! ### Kinds -/

/-- What is wrong with a pattern. -/
inductive FaultKind where
  | classEscapeInvalid
  | classRangeInvalid
  | classRangeBoundary
  | classUnclosed
  | decimalInvalid
  | escapeHexInvalid
  | escapeHexDigit
  | escapeAtEnd
  | escapeUnrecognized
  | flagDanglingNegation
  | flagDuplicate
  | flagRepeatedNegation
  | flagAtEnd
  | flagUnrecognized
  | groupNameDuplicate
  | groupNameEmpty
  | groupNameInvalid
  | groupNameUnclosed
  | groupUnclosed
  | groupUnopened
  /-- Groups, classes and repetitions are nested deeper than the limit. -/
  | nestedTooDeep (limit : Nat)
  | countMissing
  | countUnclosed
  | repetitionMissing
  | wordBoundaryUnclosed
  | wordBoundaryAtEnd
  | unicodeClassInvalid
  | backreference
  | lookAround
  | unicodeNotAllowed
  /-- The pattern matches texts that are not UTF-8. -/
  | invalidUtf8
  | propertyNotFound
  | shorthandNotFound
  | caseUnavailable
  deriving DecidableEq, Repr

/-- The words for a kind of fault. -/
def FaultKind.message : FaultKind → String
  | .classEscapeInvalid => "invalid escape sequence found in character class"
  | .classRangeInvalid => "invalid character class range, the start must be <= the end"
  | .classRangeBoundary => "invalid range boundary, must be a literal"
  | .classUnclosed => "unclosed character class"
  | .decimalInvalid => "decimal literal invalid"
  | .escapeHexInvalid => "hexadecimal literal is not a Unicode scalar value"
  | .escapeHexDigit => "invalid hexadecimal digit"
  | .escapeAtEnd => "incomplete escape sequence, reached end of pattern prematurely"
  | .escapeUnrecognized => "unrecognized escape sequence"
  | .flagDanglingNegation => "dangling flag negation operator"
  | .flagDuplicate => "duplicate flag"
  | .flagRepeatedNegation => "flag negation operator repeated"
  | .flagAtEnd => "expected flag but got end of regex"
  | .flagUnrecognized => "unrecognized flag"
  | .groupNameDuplicate => "duplicate capture group name"
  | .groupNameEmpty => "empty capture group name"
  | .groupNameInvalid => "invalid capture group character"
  | .groupNameUnclosed => "unclosed capture group name"
  | .groupUnclosed => "unclosed group"
  | .groupUnopened => "unopened group"
  | .nestedTooDeep limit =>
    s!"exceed the maximum number of nested parentheses/brackets ({limit})"
  | .countMissing => "repetition quantifier expects a valid decimal"
  | .countUnclosed => "unclosed counted repetition"
  | .repetitionMissing => "repetition operator missing expression"
  | .wordBoundaryUnclosed =>
    "special word boundary assertion is either unclosed or contains an invalid character"
  | .wordBoundaryAtEnd =>
    "found either the beginning of a special word boundary or a bounded repetition " ++
      "on a \\b with an opening brace, but no closing brace"
  | .unicodeClassInvalid => "invalid Unicode character class"
  | .backreference => "backreferences are not supported"
  | .lookAround => "look-around, including look-ahead and look-behind, is not supported"
  | .unicodeNotAllowed => "Unicode not allowed here"
  | .invalidUtf8 => "pattern can match invalid UTF-8"
  | .propertyNotFound => "Unicode property not found"
  | .shorthandNotFound =>
    "Unicode-aware Perl class not found (make sure the unicode-perl feature is enabled)"
  | .caseUnavailable =>
    "Unicode-aware case insensitivity matching is not available " ++
      "(make sure the unicode-case feature is enabled)"

/-! ### Showing a fault -/

/-- A fault: its kind, its part of the pattern, and an earlier part that it repeats. -/
structure Fault where
  kind : FaultKind
  span : Span
  earlier : Option Span := none
  deriving DecidableEq, Repr

/-- The parts of a pattern that a fault names, in their order. -/
def Fault.spans (f : Fault) : List Span :=
  match f.earlier with
  | none => [f.span]
  | some other =>
    if other.start.isBefore f.span.start then [other, f.span] else [f.span, other]

/-- Carets below parts of one line, the first of which starts behind `done` characters. -/
def carets : (done : Nat) → List Span → String
  | _, [] => ""
  | done, s :: rest =>
    let gap := s.start.column - 1 - done
    let length := max 1 (s.stop.column - s.start.column)
    "".pushn ' ' gap ++ "".pushn '^' length ++ carets (done + gap + length) rest

/-- The row of carets below a line, if a part of it is named. -/
def caretRow? (f : Fault) (line margin : Nat) : Option String :=
  match f.spans.filter fun s => s.isOneLine && s.start.line == line with
  | [] => none
  | spans => some ("".pushn ' ' margin ++ carets 0 spans)

/-- The lines of a pattern from number `line` on with the carets below them. The line numbers are
`digits` characters wide; there are none for the only line of a pattern. -/
def annotated (f : Fault) (digits : Nat) : (line : Nat) → List String → List String
  | _, [] => []
  | line, text :: rest =>
    let margin := if digits == 0 then 4 else digits + 2
    let start := if digits == 0 then "    " else Text.padLeft digits (toString line) ++ ": "
    (start ++ text) :: (caretRow? f line margin).toList ++ annotated f digits (line + 1) rest

/-- Where a part of several lines begins and ends. -/
def Span.note (s : Span) : String :=
  s!"on line {s.start.line} (column {s.start.column}) " ++
    s!"through line {s.stop.line} (column {s.stop.column - 1})"

/-- The fault as it is shown to the user. -/
def Fault.render (pattern : List Char) (f : Fault) : String :=
  let lines := (Text.linesChars pattern).map String.ofList
  let count := lines.length + if pattern.getLast? == some '\n' then 1 else 0
  let digits := if count ≤ 1 then 0 else (toString count).length
  let shown := annotated f digits 1 lines
  let parts :=
    if pattern.contains '\n' then
      let ruler := "".pushn '~' 79
      ruler :: shown ++ ruler :: (f.spans.filter fun s => !s.isOneLine).map Span.note
    else shown
  "\n".intercalate ("regex parse error:" :: parts ++ [s!"error: {f.kind.message}"])

end TableShell.Regex
