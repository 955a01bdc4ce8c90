/-!
# Reading whole numbers

Whole numbers are written as ASCII digits with an optional sign. Readers refuse an empty run of
digits, any other character, and a value outside the range of the type that is read.
-/

namespace TableShell

/-- Whether a character is one of the ten ASCII digits. -/
def isDigit (c : Char) : Bool :=
  '0' ≤ c && c ≤ '9'

/-- The value of an ASCII digit. -/
def digitValue (c : Char) : Nat :=
  c.toNat - '0'.toNat

/-- The number written by a run of digits, the most significant first. -/
def valueOfDigits (cs : List Char) : Nat :=
  cs.foldl (fun n c => 10 * n + digitValue c) 0

/-- The number written by a non-empty run of digits. -/
def readDigits? (cs : List Char) : Option Nat :=
  if !cs.isEmpty && cs.all isDigit then some (valueOfDigits cs) else none

/-- The largest unsigned 64-bit number, at which byte counts and usage counts saturate. -/
def maxWord : Nat := 0xFFFFFFFFFFFFFFFF

/-- The largest signed 64-bit number. -/
def maxInteger : Nat := 0x7FFFFFFFFFFFFFFF

/-- Read an unsigned 64-bit number; a plus sign is allowed. -/
def readWord? (s : String) : Option Nat :=
  let digits := match s.toList with
    | '+' :: rest => rest
    | cs => cs
  (readDigits? digits).filter (· ≤ maxWord)

/-- Read a signed 64-bit number; either sign is allowed. -/
def readInteger? (s : String) : Option Int :=
  match s.toList with
  | '-' :: rest => ((readDigits? rest).filter (· ≤ maxInteger + 1)).map fun n => -(n : Int)
  | '+' :: rest => ((readDigits? rest).filter (· ≤ maxInteger)).map Int.ofNat
  | cs => ((readDigits? cs).filter (· ≤ maxInteger)).map Int.ofNat

end TableShell
