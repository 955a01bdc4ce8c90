/-!
# Searching and cutting texts

Substring search, cutting at the first or the last occurrence of a character, cutting into lines,
and repeated replacement.
-/

namespace TableShell.Text

/-! ### Substrings -/

/-- Whether `needle` occurs somewhere in a text. -/
def occursIn (needle : List Char) : List Char → Bool
  | [] => needle.isEmpty
  | c :: cs => needle.isPrefixOf (c :: cs) || occursIn needle cs

/-- What follows `start` in a text that begins with it. -/
def afterStart? : (start text : List Char) → Option (List Char)
  | [], cs => some cs
  | _ :: _, [] => none
  | p :: ps, c :: cs => if p == c then afterStart? ps cs else none

/-- Whether `needle` occurs somewhere in `text`. -/
def contains (text needle : String) : Bool :=
  occursIn needle.toList text.toList

/-- Whether `text` begins with `start`. -/
def startsWith (text start : String) : Bool :=
  start.toList.isPrefixOf text.toList

/-! ### Cutting at one character -/

/-- The parts of a text before and after its first `sep`. -/
def cutFirst (sep : Char) : List Char → Option (List Char × List Char)
  | [] => none
  | c :: cs =>
    if c == sep then some ([], cs)
    else (cutFirst sep cs).map fun (before, after) => (c :: before, after)

/-- The parts of a text before and after the last character that satisfies `p`. -/
def cutLastWhere (p : Char → Bool) : List Char → Option (List Char × List Char)
  | [] => none
  | c :: cs =>
    match cutLastWhere p cs with
    | some (before, after) => some (c :: before, after)
    | none => if p c then some ([], cs) else none

/-- The parts of a text before and after its last `sep`. -/
def cutLast (sep : Char) (cs : List Char) : Option (List Char × List Char) :=
  cutLastWhere (· == sep) cs

/-! ### Lines -/

/-- A line without the carriage return that belongs to its line end. -/
def dropCarriageReturn (cs : List Char) : List Char :=
  if cs.getLast? == some '\r' then cs.dropLast else cs

/-- The lines of a text given as the pieces between its line feeds: each ended line loses a
carriage return before the feed, and the piece after the last feed is a line only if it holds
something. -/
def linesOfPieces : List (List Char) → List (List Char)
  | [] => []
  | [rest] => if rest.isEmpty then [] else [rest]
  | line :: more => dropCarriageReturn line :: linesOfPieces more

/-- The lines of a text, without their line ends. -/
def linesChars (cs : List Char) : List (List Char) :=
  linesOfPieces (cs.splitOn '\n')

/-- The lines of a string, without their line ends. -/
def lines (s : String) : List String :=
  (linesChars s.toList).map .ofList

/-! ### Replacement -/

/-- Replace every occurrence of a non-empty `needle`, from the left and without overlaps.
`skip` counts the characters of the occurrence that is being passed over. -/
def replaceFrom (needle replacement : List Char) : (skip : Nat) → List Char → List Char
  | _, [] => []
  | skip + 1, _ :: cs => replaceFrom needle replacement skip cs
  | 0, c :: cs =>
    if !needle.isEmpty && needle.isPrefixOf (c :: cs) then
      replacement ++ replaceFrom needle replacement (needle.length - 1) cs
    else c :: replaceFrom needle replacement 0 cs

/-- The string with every occurrence of `needle` replaced, from the left. -/
def replaceAll (text needle replacement : String) : String :=
  .ofList (replaceFrom needle.toList replacement.toList 0 text.toList)

/-! ### Columns -/

/-- The text filled up with spaces on its right to `width` characters. -/
def padRight (width : Nat) (s : String) : String :=
  .ofList (s.toList ++ List.replicate (width - s.toList.length) ' ')

/-- The text filled up with spaces on its left to `width` characters. -/
def padLeft (width : Nat) (s : String) : String :=
  .ofList (List.replicate (width - s.toList.length) ' ' ++ s.toList)

end TableShell.Text
