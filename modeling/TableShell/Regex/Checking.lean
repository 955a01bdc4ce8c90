import TableShell.Regex.Reading

/-!
# Checking patterns

Which patterns an automaton can be built for. The automaton reads UTF-8 and knows no tables of
Unicode, so a pattern of characters may name no Unicode property and no class of digits, blanks or
words, may not ignore case, and may not ask for the border of a word. A pattern of bytes may do all
that within ASCII, but may not match bytes beyond it.
-/

namespace TableShell.Regex

/-! ### Modes -/

/-- The flags that decide what a part means. -/
structure Mode where
  caseInsensitive : Bool := false
  /-- Whether parts match characters; otherwise they match bytes. -/
  unicode : Bool := true
  deriving DecidableEq, Repr

/-- The mode behind some flags. -/
def Mode.with (m : Mode) (items : List FlagItem) : Mode where
  caseInsensitive := (flagState? .caseInsensitive items).getD m.caseInsensitive
  unicode := (flagState? .unicode items).getD m.unicode

/-- A check of a part, which may find a fault. -/
abbrev Check := Except Fault

/-- Refuse a part. -/
def refuse {α : Type} (kind : FaultKind) (span : Span) : Check α :=
  throw { kind, span }

/-! ### Classes -/

/-- How much a set of characters holds, as far as its letters matter: the empty set and the full
set are the same in both cases. -/
inductive Extent where
  | nothing
  | everything
  | letters
  deriving DecidableEq, Repr

/-- The extent of two sets together. -/
def Extent.union : Extent → Extent → Extent
  | .nothing, e => e
  | e, .nothing => e
  | .everything, .everything => .everything
  | _, _ => .letters

/-- The extent of all that is not in a set. -/
def Extent.complement : Extent → Extent
  | .nothing => .everything
  | .everything => .nothing
  | .letters => .letters

/-- The extent of two sets combined. -/
def Extent.combine : SetOperation → Extent → Extent → Extent
  | .intersection, .everything, e => e
  | .intersection, e, .everything => e
  | .intersection, .nothing, _ => .nothing
  | .intersection, _, .nothing => .nothing
  | .intersection, .letters, .letters => .letters
  | .difference, _, .everything => .nothing
  | .difference, e, .nothing => e
  | .difference, .nothing, _ => .nothing
  | .difference, _, .letters => .letters
  | .symmetricDifference, .nothing, e => e
  | .symmetricDifference, e, .nothing => e
  | .symmetricDifference, .everything, .everything => .nothing
  | .symmetricDifference, _, _ => .letters

/-- A set may ignore case only if there is nothing to ignore. -/
def checkCase (m : Mode) (span : Span) (e : Extent) : Check Unit :=
  if m.caseInsensitive && e == .letters then refuse .caseUnavailable span else return

/-- A character of a set of bytes is an ASCII character. -/
def checkByte (l : Literal) : Check Unit :=
  if l.char.toNat < 0x80 then return
  else if l.asByte then refuse .invalidUtf8 l.span
  else refuse .unicodeNotAllowed l.span

mutual

/-- Check a set of characters. -/
def ClassSet.check (m : Mode) : ClassSet → Check Extent
  | .empty _ => return .nothing
  | .literal l => do
    if !m.unicode then checkByte l
    return .letters
  | .range _ first last => do
    if !m.unicode then
      checkByte first
      checkByte last
    return .letters
  | .ascii span negated => do
    if m.unicode then checkCase m span .letters
    else if negated then refuse .invalidUtf8 span
    return .letters
  | .property span => refuse (if m.unicode then .propertyNotFound else .unicodeNotAllowed) span
  | .shorthand span negated =>
    if m.unicode then refuse .shorthandNotFound span
    else if negated then refuse .invalidUtf8 span
    else return .letters
  | .bracketed span negated set => do
    let extent ← set.check m
    if m.unicode then checkCase m span extent
    else if negated then refuse .invalidUtf8 span
    return if negated then extent.complement else extent
  | .union _ items => ClassSet.checkAll m items
  | .combined _ operation left right => do
    let leftExtent ← left.check m
    let rightExtent ← right.check m
    if m.unicode then
      checkCase m right.span rightExtent
      checkCase m left.span leftExtent
    return .combine operation leftExtent rightExtent

/-- Check several sets, one after the other. -/
def ClassSet.checkAll (m : Mode) : List ClassSet → Check Extent
  | [] => return .nothing
  | set :: rest => do
    let first ← set.check m
    let others ← ClassSet.checkAll m rest
    return first.union others

end

/-! ### Patterns -/

/-- What has been found out about the parts of a pattern so far. -/
structure Finding where
  mode : Mode
  /-- Whether the border of a word of characters was asked for. -/
  wordBorder : Bool := false
  deriving DecidableEq, Repr

mutual

/-- Check a part of a pattern behind the parts that led to a finding. -/
def Node.check (f : Finding) : Node → Check Finding
  | .empty _ => return f
  | .flags _ items => return { f with mode := f.mode.with items }
  | .literal l =>
    if f.mode.unicode then
      if f.mode.caseInsensitive then refuse .caseUnavailable l.span else return f
    else if l.asByte && 0x80 ≤ l.char.toNat then refuse .invalidUtf8 l.span
    else return f
  | .dot span => if f.mode.unicode then return f else refuse .invalidUtf8 span
  | .look _ word => return { f with wordBorder := f.wordBorder || (word && f.mode.unicode) }
  | .property span =>
    refuse (if f.mode.unicode then .propertyNotFound else .unicodeNotAllowed) span
  | .shorthand span negated => do
    let _ ← ClassSet.check f.mode (.shorthand span negated)
    return f
  | .bracketed span negated set => do
    let _ ← ClassSet.check f.mode (.bracketed span negated set)
    return f
  | .repetition _ part => part.check f
  | .group _ items part => do
    let inner ← part.check { f with mode := f.mode.with items }
    return { inner with mode := f.mode }
  | .alternation _ branches => Node.checkAll f branches
  | .concatenation _ parts => Node.checkAll f parts

/-- Check several parts, one after the other. -/
def Node.checkAll (f : Finding) : List Node → Check Finding
  | [] => return f
  | part :: rest => do Node.checkAll (← part.check f) rest

end

/-! ### Automata -/

/-- Why no automaton can be built for a pattern. -/
inductive BuildFault where
  /-- The pattern is not well formed, or asks for what is not supported. -/
  | pattern (fault : Fault)
  /-- The pattern asks for the border of a word of characters. -/
  | wordBorder
  deriving DecidableEq, Repr

/-- Why no automaton can be built for a pattern, if so. -/
def buildFault? (pattern : List Char) : Option BuildFault :=
  match (do (← Node.parse pattern).check { mode := {} } : Check Finding) with
  | .error fault => some (.pattern fault)
  | .ok finding => if finding.wordBorder then some .wordBorder else none

end TableShell.Regex
