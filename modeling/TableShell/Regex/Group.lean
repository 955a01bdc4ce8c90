import TableShell.Regex.Reader
import TableShell.Text.Alphanumeric

/-!
# Groups

What stands behind the opening parenthesis of a group: its name, its flags, or nothing. Flags
without a group hold for the rest of the group around them.
-/

namespace TableShell.Regex

/-- The flag that a letter stands for. -/
def flagLetter? : Char → Option Flag
  | 'i' => some .caseInsensitive
  | 'm' => some .multiLine
  | 's' => some .dotMatchesNewLine
  | 'U' => some .swapGreed
  | 'u' => some .unicode
  | 'R' => some .carriageReturn
  | 'x' => some .ignoreBlanks
  | _ => none

/-- What stands behind an opening parenthesis. -/
inductive GroupOpening where
  /-- Flags alone, with the parentheses around them. -/
  | flags (span : Span) (items : List FlagItem)
  /-- A group with flags of its own, and the place of its parenthesis. -/
  | group (span : Span) (items : List FlagItem)

/-- Whether a character may stand in the name of a group. -/
def isNameCharacter (isFirst : Bool) (c : Char) : Bool :=
  if isFirst then c == '_' || Text.isAlphabetic c
  else ['_', '.', '[', ']'].contains c || Text.isAlphanumeric c

namespace Reader

/-! ### Names -/

/-- Read the characters of a name, of which there are at most `limit`. -/
def nameCharacters : (limit : Nat) → (name : List Char) → Reader (List Char)
  | 0, name => return name
  | limit + 1, name => do
    match ← peek? with
    | none | some '>' => return name
    | some c =>
      if isNameCharacter name.isEmpty c then
        advance
        nameCharacters limit (name ++ [c])
      else fault .groupNameInvalid (← charSpan)

/-- Read the name of a group to the angle behind it. No two groups have one name. -/
def groupName : Reader Unit := do
  let start ← place
  let name ← nameCharacters (← get).rest.length []
  let span ← spanFrom start
  if ← atEnd then fault .groupNameUnclosed (← place).span
  else
    advance
    if name.isEmpty then fault .groupNameEmpty start.span
    else
      match (← get).names.lookup name with
      | some earlier => throw { kind := .groupNameDuplicate, span, earlier := some earlier }
      | none => modify fun unread => { unread with names := unread.names ++ [(name, span)] }

/-! ### Flags -/

/-- The kinds of fault of flags that are repeated. -/
def repeatedItem : FlagItem → FaultKind
  | .negation => .flagRepeatedNegation
  | .flag _ => .flagDuplicate

/-- Read flags up to a colon or a closing parenthesis. There are at most `limit`; `seen` are those
in front of them. -/
def flagItems : (limit : Nat) → (seen : List (FlagItem × Span)) → Reader (List FlagItem)
  | 0, seen => return seen.map Prod.fst
  | limit + 1, seen => do
    match ← peek? with
    | none => return seen.map Prod.fst
    | some ':' | some ')' =>
      match seen.getLast? with
      | some (.negation, span) => fault .flagDanglingNegation span
      | _ => return seen.map Prod.fst
    | some c =>
      let span ← charSpan
      let item ← if c == '-' then pure .negation else
        match flagLetter? c with
        | some f => pure (.flag f)
        | none => fault .flagUnrecognized span
      match seen.lookup item with
      | some earlier => throw { kind := repeatedItem item, span, earlier := some earlier }
      | none =>
        advance
        if ← atEnd then fault .flagAtEnd (← place).span
        else flagItems limit (seen ++ [(item, span)])

/-! ### Openings -/

/-- Read an opening parenthesis and what belongs to it. -/
def groupOpening : Reader GroupOpening := do
  let span ← charSpan
  advanceAndSkip
  let inner ← place
  if (← exactly? "?=".toList) || (← exactly? "?!".toList) || (← exactly? "?<=".toList) ||
      (← exactly? "?<!".toList) then
    fault .lookAround (← spanFrom span.start)
  else if (← exactly? "?P<".toList) || (← exactly? "?<".toList) then
    groupName
    return .group span []
  else if ← exactly? ['?'] then
    if ← atEnd then fault .groupUnclosed span
    else
      let items ← flagItems (← get).rest.length []
      let last ← peek?
      advance
      if last == some ')' then
        if items.isEmpty then fault .repetitionMissing inner.span
        else return .flags (← spanFrom span.start) items
      else return .group span items
  else return .group span []

end Reader

end TableShell.Regex
