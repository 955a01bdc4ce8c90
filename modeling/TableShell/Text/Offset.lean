/-!
# Byte offsets

Positions in a line are counted in the bytes of its UTF-8 encoding. A position is a *boundary*
when it lies between two characters or at an end. The functions here relate byte positions to the
characters before and after them; a position inside a character or past the end is moved down to
the nearest boundary.
-/

namespace TableShell.Text

/-- The number of bytes of a text in UTF-8. -/
def byteLength : List Char → Nat
  | [] => 0
  | c :: cs => c.utf8Size + byteLength cs

/-- The characters that end at or before byte `n`. -/
def beforeByte : (n : Nat) → List Char → List Char
  | _, [] => []
  | n, c :: cs => if c.utf8Size ≤ n then c :: beforeByte (n - c.utf8Size) cs else []

/-- The characters from the last boundary at or before byte `n`. -/
def fromByte : (n : Nat) → List Char → List Char
  | _, [] => []
  | n, c :: cs => if c.utf8Size ≤ n then fromByte (n - c.utf8Size) cs else c :: cs

/-- The last boundary at or before byte `n`. -/
def clampByte (n : Nat) (cs : List Char) : Nat :=
  byteLength (beforeByte n cs)

/-- Whether byte `n` lies between two characters or at an end. -/
def isBoundary (n : Nat) (cs : List Char) : Bool :=
  clampByte n cs == n

/-- Cut a text at byte `n`, if that is a boundary. -/
def cutAtByte? (n : Nat) (cs : List Char) : Option (List Char × List Char) :=
  if isBoundary n cs then some (beforeByte n cs, fromByte n cs) else none

/-- The part of a string before the last boundary at or before byte `n`. -/
def takeBytes (n : Nat) (s : String) : String :=
  .ofList (beforeByte n s.toList)

/-- The part of a string from the last boundary at or before byte `n`. -/
def dropBytes (n : Nat) (s : String) : String :=
  .ofList (fromByte n s.toList)

/-- The part of a string from byte `start` to byte `stop`. -/
def sliceBytes (start stop : Nat) (s : String) : String :=
  dropBytes start (takeBytes stop s)

end TableShell.Text
