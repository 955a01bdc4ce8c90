import TableShell.Regex.Bracket
import TableShell.Regex.Group

/-!
# Reading whole patterns

A pattern is a choice between sequences of parts, each of which may be repeated. The parts nest at
most 250 levels deep. A filter leaves no closing brace in a pattern, so a counted repetition is
never complete.
-/

namespace TableShell.Regex

/-- How deep the parts of a pattern may be nested. -/
def nestLimit : Nat := 250

/-- What has been read of a pattern or of a group: the sequences in front of the last bar, and the
parts behind it. -/
structure Sequences where
  /-- Where the first sequence begins. -/
  first : Place
  finished : List Node := []
  /-- Where the last sequence begins. -/
  start : Place
  parts : List Node := []

/-- Nothing at a place. -/
def Sequences.at (p : Place) : Sequences :=
  { first := p, start := p }

/-- One more part of the last sequence. -/
def Sequences.push (s : Sequences) (part : Node) : Sequences :=
  { s with parts := s.parts ++ [part] }

/-- The last sequence, which ends at a place. -/
def Sequences.lastSequence (s : Sequences) (stop : Place) : Node :=
  match s.parts with
  | [] => .empty { start := s.start, stop }
  | [part] => part
  | parts => .concatenation { start := s.start, stop } parts

/-- The sequences in front of a bar that stands at a place. -/
def Sequences.finish (s : Sequences) (stop : Place) (next : Place) : Sequences :=
  { s with finished := s.finished ++ [s.lastSequence stop], start := next, parts := [] }

/-- The choice between all sequences, the last of which ends at a place. -/
def Sequences.toNode (s : Sequences) (stop : Place) : Node :=
  if s.finished.isEmpty then s.lastSequence stop
  else .alternation { start := s.first, stop } (s.finished ++ [s.lastSequence stop])

/-- Whether a part can be repeated: everything but flags. -/
def Node.isRepeatable : Node → Bool
  | .empty _ | .flags _ _ => false
  | _ => true

/-- Split off the part in front of a sign of repetition. -/
def Sequences.splitRepeated? (s : Sequences) : Option (Sequences × Node) :=
  (s.parts.getLast?.filter Node.isRepeatable).map fun part =>
    ({ s with parts := s.parts.dropLast }, part)

namespace Reader

/-- Read a sign of repetition, which a question mark may follow. -/
def repetition (s : Sequences) : Reader Sequences := do
  match s.splitRepeated? with
  | none => fault .repetitionMissing (← place).span
  | some (s, part) =>
    advance
    let _ ← exactly? ['?']
    return s.push (.repetition (← spanFrom part.span.start) part)

/-- Skip blanks of any kind, of which there are at most `limit`. -/
def blanks : (limit : Nat) → Reader Unit
  | 0 => return
  | limit + 1 => do
    if (← peek?).any Text.isBlank then
      advance
      blanks limit

/-- Read the digits of a count, of which there are at most `limit`. -/
def countDigits : (limit : Nat) → (digits : List Char) → Reader (List Char)
  | 0, digits => return digits
  | limit + 1, digits => do
    match ← peek? with
    | some c =>
      if isDigit c then
        advanceAndSkip
        countDigits limit (digits ++ [c])
      else return digits
    | none => return digits

/-- Read a counted repetition, which is never complete: it ends with the pattern, has no count, or
has something behind its count. -/
def countedRepetition (s : Sequences) : Reader Sequences := do
  let start ← place
  if s.splitRepeated?.isNone then fault .repetitionMissing start.span
  else
    advanceAndSkip
    if ← atEnd then fault .countUnclosed (← spanFrom start)
    else
      let limit := (← get).rest.length
      blanks limit
      let first ← place
      let digits ← countDigits limit []
      let span ← spanFrom first
      blanks limit
      if ← atEnd then fault .countUnclosed (← spanFrom start)
      else if digits.isEmpty then fault .countMissing span
      else if 0xFFFFFFFF < valueOfDigits digits then fault .decimalInvalid span
      else fault .countUnclosed (← spanFrom start)

/-- Read the rest of a pattern or, if it was opened at `opening`, of a group, up to the closing
parenthesis. Every step reads a character, of which `fuel` counts more than there are. -/
def sequences (opening : Option Span) : (fuel : Nat) → Sequences → Reader Node
  | 0, s => return s.toNode (← place)
  | fuel + 1, s => do
    skipBlanks
    match ← peek? with
    | none =>
      match opening with
      | some span => fault .groupUnclosed span
      | none => return s.toNode (← place)
    | some ')' =>
      if opening.isNone then fault .groupUnopened (← charSpan)
      else
        let node := s.toNode (← place)
        advance
        return node
    | some '(' =>
      match ← groupOpening with
      | .flags span items =>
        let skips := (flagState? .ignoreBlanks items).getD (← get).skipsBlanks
        modify fun unread => { unread with skipsBlanks := skips }
        sequences opening fuel (s.push (.flags span items))
      | .group span items =>
        let outer := (← get).skipsBlanks
        let skips := (flagState? .ignoreBlanks items).getD outer
        modify fun unread => { unread with skipsBlanks := skips }
        let inner ← sequences (some span) fuel (.at (← place))
        modify fun unread => { unread with skipsBlanks := outer }
        sequences opening fuel (s.push (.group (← spanFrom span.start) items inner))
    | some '|' =>
      let stop ← place
      advance
      sequences opening fuel (s.finish stop (← place))
    | some '[' =>
      match ← bracketed (fuel + 1) with
      | .bracketed span negated set => sequences opening fuel (s.push (.bracketed span negated set))
      | _ => return s.toNode (← place)
    | some c =>
      if c == '?' || c == '*' || c == '+' then sequences opening fuel (← repetition s)
      else if c == '\x7b' then sequences opening fuel (← countedRepetition s)
      else sequences opening fuel (s.push (← primitive c))

/-- Read a whole pattern. -/
def pattern : Reader Node := do
  let node ← sequences none ((← get).rest.length + 1) (.at (← place))
  match node.tooDeep? nestLimit with
  | some span => fault (.nestedTooDeep nestLimit) span
  | none => return node

end Reader

/-- The parts of a pattern. -/
def Node.parse (text : List Char) : Except Fault Node := do
  return (← StateT.run Reader.pattern { rest := text }).1

end TableShell.Regex
