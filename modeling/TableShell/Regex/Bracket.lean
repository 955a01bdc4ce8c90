import TableShell.Regex.Escape

/-!
# Bracketed classes

Sets of characters in brackets: characters, ranges, named classes, further brackets, and
combinations of sets. A closing bracket in front of everything else and hyphens at the beginning
stand for themselves.
-/

namespace TableShell.Regex

/-! ### Items -/

/-- The names of the ASCII classes. -/
def asciiClassNames : List String :=
  ["alnum", "alpha", "ascii", "blank", "cntrl", "digit", "graph", "lower", "print", "punct",
    "space", "upper", "word", "xdigit"]

/-- The items of a set that have been read, in order. -/
structure Items where
  span : Span
  items : List ClassSet := []

/-- One more item of a set. -/
def Items.push (s : Items) (item : ClassSet) : Items :=
  { span := { start := if s.items.isEmpty then item.span.start else s.span.start
              stop := item.span.stop }
    items := s.items ++ [item] }

/-- The set of all items. -/
def Items.toSet (s : Items) : ClassSet :=
  match s.items with
  | [] => .empty s.span
  | [item] => item
  | items => .union s.span items

/-- A set as the right side of a combination whose left side has been read. -/
def combineWith (left : Option (SetOperation × ClassSet)) (right : ClassSet) : ClassSet :=
  match left with
  | none => right
  | some (operation, left) =>
    .combined { start := left.span.start, stop := right.span.stop } operation left right

/-- The signs for combinations. -/
def operationSign? : Char → Option SetOperation
  | '&' => some .intersection
  | '-' => some .difference
  | '~' => some .symmetricDifference
  | _ => none

namespace Reader

/-- A part as an item of a set. -/
def asItem : Node → Reader ClassSet
  | .literal l => return .literal l
  | .shorthand span negated => return .shorthand span negated
  | .property span => return .property span
  | part => fault .classEscapeInvalid part.span

/-- A part as an end of a range. -/
def asBoundary : Node → Reader Literal
  | .literal l => return l
  | part => fault .classRangeBoundary part.span

/-- Read a character or an escape sequence in a set. -/
def setCharacter : Reader Node := do
  match ← peek? with
  | some '\\' => escape
  | some char =>
    let span ← charSpan
    advance
    return .literal { span, char }
  | none => return .empty (← place).span

/-- Read a character, a class or a range in a set that is opened at `opening`. -/
def setRange (opening : Span) : Reader ClassSet := do
  let first ← setCharacter
  skipBlanks
  if ← atEnd then fault .classUnclosed opening
  else
    let second ← peekBehindBlanks?
    if (← peek?) != some '-' || second == some ']' || second == some '-' then asItem first
    else
      advanceAndSkip
      if ← atEnd then fault .classUnclosed opening
      else
        let last ← setCharacter
        let span : Span := { start := first.span.start, stop := last.span.stop }
        let first ← asBoundary first
        let last ← asBoundary last
        if last.char < first.char then fault .classRangeInvalid span
        else return .range span first last

/-- Read a named class if there is one, from its bracket. -/
def asciiClass? : Reader (Option ClassSet) := do
  let before ← get
  if ← exactly? "[:".toList then
    let negated ← exactly? ['^']
    let rest := (← get).rest
    let name := rest.takeWhile (· != ':')
    let _ ← exactly? name
    if (← exactly? ":]".toList) && asciiClassNames.contains (.ofList name) then
      return some (.ascii (← spanFrom before.place) negated)
    else
      set before
      return none
  else return none

/-! ### Brackets -/

/-- The beginning of a bracketed class. -/
structure Opening where
  span : Span
  negated : Bool
  items : Items

/-- Read hyphens that stand for themselves, of which there are at most `limit`. -/
def leadingHyphens (start : Place) : (limit : Nat) → Items → Reader Items
  | 0, items => return items
  | limit + 1, items => do
    if (← peek?) == some '-' then
      let span ← charSpan
      advanceAndSkip
      if ← atEnd then fault .classUnclosed start.span
      else leadingHyphens start limit (items.push (.literal { span, char := '-' }))
    else return items

/-- Read the beginning of a class: the bracket, a sign of negation, and the hyphens or the closing
bracket that stand for themselves. -/
def classOpening : Reader Opening := do
  let start ← place
  advanceAndSkip
  if ← atEnd then fault .classUnclosed (← spanFrom start)
  else
    let negated := (← peek?) == some '^'
    if negated then advanceAndSkip
    if ← atEnd then fault .classUnclosed (← spanFrom start)
    else
      let hyphens ← leadingHyphens start (← get).rest.length { span := (← place).span }
      let span ← charSpan
      if hyphens.items.isEmpty && (← peek?) == some ']' then
        advanceAndSkip
        if ← atEnd then fault .classUnclosed (← spanFrom start)
        else
          let items := hyphens.push (.literal { span, char := ']' })
          return { span := ← spanFrom start, negated, items }
      else return { span := ← spanFrom start, negated, items := hyphens }

mutual

/-- Read a bracketed class, from its bracket. Every step reads a character, of which `fuel` counts
more than there are. -/
def bracketed : (fuel : Nat) → Reader ClassSet
  | 0 => fun unread => fault .classUnclosed unread.place.span unread
  | fuel + 1 => do
    let opening ← classOpening
    classItems opening fuel opening.items none

/-- Read the rest of a class behind some items and the left side of a combination. -/
def classItems (opening : Opening) : (fuel : Nat) → Items → Option (SetOperation × ClassSet) →
    Reader ClassSet
  | 0, _, _ => fault .classUnclosed opening.span
  | fuel + 1, items, left => do
    skipBlanks
    match ← peek? with
    | none => fault .classUnclosed opening.span
    | some '[' =>
      match ← asciiClass? with
      | some named => classItems opening fuel (items.push named) left
      | none =>
        let inner ← bracketed fuel
        classItems opening fuel (items.push inner) left
    | some ']' =>
      advance
      let span ← spanFrom opening.span.start
      return .bracketed span opening.negated (combineWith left items.toSet)
    | some c =>
      match (← peekSecond?).bind fun second => if second == c then operationSign? c else none with
      | some operation =>
        advance
        advance
        let left := combineWith left items.toSet
        classItems opening fuel { span := (← place).span } (some (operation, left))
      | none =>
        let item ← setRange opening.span
        classItems opening fuel (items.push item) left

end

end Reader

end TableShell.Regex
