import TableShell.Regex.Fault

/-!
# Pattern trees

The parts of a regular expression with their places in the pattern, as far as they decide whether
an automaton can be built: what a part matches is kept only where a fault can depend on it.
-/

namespace TableShell.Regex

/-! ### Flags -/

/-- What a group can switch on and off. -/
inductive Flag where
  | caseInsensitive
  | multiLine
  | dotMatchesNewLine
  | swapGreed
  | unicode
  | carriageReturn
  | ignoreBlanks
  deriving DecidableEq, Repr

/-- One character of the flags of a group. -/
inductive FlagItem where
  /-- What follows is switched off. -/
  | negation
  | flag (f : Flag)
  deriving DecidableEq, Repr

/-- Whether flags switch `f` on or off, if they name it. -/
def switched? (f : Flag) : (on : Bool) → List FlagItem → Option Bool
  | _, [] => none
  | _, .negation :: rest => switched? f false rest
  | on, .flag g :: rest => if g == f then some on else switched? f on rest

/-- The flags with their effect: everything behind a negation is switched off. -/
def flagState? (f : Flag) (items : List FlagItem) : Option Bool :=
  switched? f true items

/-! ### Classes -/

/-- A character that stands for itself. -/
structure Literal where
  span : Span
  char : Char
  /-- Whether it is written as two hexadecimal digits, and so may stand for a byte. -/
  asByte : Bool := false
  deriving DecidableEq, Repr

/-- How two sets of characters are combined. -/
inductive SetOperation where
  | intersection
  | difference
  | symmetricDifference
  deriving DecidableEq, Repr

/-- A set of characters, or a part of one. -/
inductive ClassSet where
  | empty (span : Span)
  | literal (literal : Literal)
  | range (span : Span) (first last : Literal)
  /-- A named class such as `[:alpha:]`. -/
  | ascii (span : Span) (negated : Bool)
  /-- A class named by a Unicode property. -/
  | property (span : Span)
  /-- One of the classes of digits, blanks and words. -/
  | shorthand (span : Span) (negated : Bool)
  | bracketed (span : Span) (negated : Bool) (set : ClassSet)
  | union (span : Span) (items : List ClassSet)
  | combined (span : Span) (operation : SetOperation) (left right : ClassSet)
  deriving Repr

/-- Where a set stands. -/
def ClassSet.span : ClassSet → Span
  | .empty span | .range span _ _ | .ascii span _ | .property span | .shorthand span _
  | .bracketed span _ _ | .union span _ | .combined span _ _ _ => span
  | .literal l => l.span

/-! ### Patterns -/

/-- A pattern, or a part of one. -/
inductive Node where
  | empty (span : Span)
  /-- Flags that hold from here to the end of the group. -/
  | flags (span : Span) (items : List FlagItem)
  | literal (literal : Literal)
  | dot (span : Span)
  /-- A condition on the place: a line end, or with `word` the border of a word. -/
  | look (span : Span) (word : Bool)
  | property (span : Span)
  | shorthand (span : Span) (negated : Bool)
  | bracketed (span : Span) (negated : Bool) (set : ClassSet)
  | repetition (span : Span) (part : Node)
  | group (span : Span) (items : List FlagItem) (part : Node)
  | alternation (span : Span) (branches : List Node)
  | concatenation (span : Span) (parts : List Node)
  deriving Repr

/-- Where a part stands. -/
def Node.span : Node → Span
  | .empty span | .flags span _ | .dot span | .look span _ | .property span | .shorthand span _
  | .bracketed span _ _ | .repetition span _ | .group span _ _ | .alternation span _
  | .concatenation span _ => span
  | .literal l => l.span

/-! ### Depth -/

mutual

/-- The first part of a set that lies deeper than `room` levels. -/
def ClassSet.tooDeep? (room : Nat) : ClassSet → Option Span
  | .bracketed span _ set =>
    match room with
    | 0 => some span
    | room + 1 => set.tooDeep? room
  | .union span items =>
    match room with
    | 0 => some span
    | room + 1 => ClassSet.anyTooDeep? room items
  | .combined span _ left right =>
    match room with
    | 0 => some span
    | room + 1 => (left.tooDeep? room).or (right.tooDeep? room)
  | _ => none

/-- The first part of several sets that lies deeper than `room` levels. -/
def ClassSet.anyTooDeep? (room : Nat) : List ClassSet → Option Span
  | [] => none
  | set :: rest => (set.tooDeep? room).or (ClassSet.anyTooDeep? room rest)

end

mutual

/-- The first part of a pattern that lies deeper than `room` levels. -/
def Node.tooDeep? (room : Nat) : Node → Option Span
  | .bracketed span _ set =>
    match room with
    | 0 => some span
    | room + 1 => set.tooDeep? room
  | .repetition span part =>
    match room with
    | 0 => some span
    | room + 1 => part.tooDeep? room
  | .group span _ part =>
    match room with
    | 0 => some span
    | room + 1 => part.tooDeep? room
  | .alternation span branches =>
    match room with
    | 0 => some span
    | room + 1 => Node.anyTooDeep? room branches
  | .concatenation span parts =>
    match room with
    | 0 => some span
    | room + 1 => Node.anyTooDeep? room parts
  | _ => none

/-- The first part of several parts that lies deeper than `room` levels. -/
def Node.anyTooDeep? (room : Nat) : List Node → Option Span
  | [] => none
  | part :: rest => (part.tooDeep? room).or (Node.anyTooDeep? room rest)

end

end TableShell.Regex
