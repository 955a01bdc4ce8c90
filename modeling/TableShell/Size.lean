import TableShell.Text.Blank
import TableShell.Number.Integer
import TableShell.Number.FixedPlaces
import TableShell.Number.Reading

/-!
# Sizes

Byte counts in the form people write them, such as `10.5 KB`. A size is a decimal number, perhaps
blanks, and a unit; the units step by 1024. Reading and writing go through 64-bit floating-point
numbers, and a count is cut off at the largest unsigned 64-bit number.
-/

namespace TableShell.Size

/-- The binary exponent of a unit. Whatever is not the name of a larger unit counts bytes. -/
def unitExponent (unit : List Char) : Nat :=
  let small := unit.map Char.toLower
  if small == ['k', 'b'] || small == ['k'] then 10
  else if small == ['m', 'b'] || small == ['m'] then 20
  else if small == ['g', 'b'] || small == ['g'] then 30
  else 0

/-- Whether a character belongs to the number of a size. -/
def isNumberChar (c : Char) : Bool :=
  isDigit c || c == '.'

/-- The bytes of a size, or nothing where the text does not begin with a number. -/
def parse? (text : String) : Option Nat :=
  let cs := Text.trimChars text.toList
  let number := cs.takeWhile isNumberChar
  let unit := Text.trimChars (cs.dropWhile isNumberChar)
  (Binary64.readChars? number).map fun x => (x.scale (unitExponent unit)).truncate maxWord

/-- The bytes of a size; a text that is no size has none. -/
def bytesOf (text : String) : Nat :=
  (parse? text).getD 0

/-- Write a byte count: whole bytes below 1024, and otherwise one decimal place of the largest
unit that is not above it. The unit is chosen on the count as a floating-point number. -/
def format (bytes : Nat) : String :=
  let b := Binary64.ofNat bytes
  let below (k : Nat) : Bool := b.compare? (Binary64.ofNat (Nat.pow 2 k)) == some .lt
  if below 10 then bytes.repr ++ " B"
  else if below 20 then (b.scale (-10)).toFixed 1 ++ " KB"
  else if below 30 then (b.scale (-20)).toFixed 1 ++ " MB"
  else (b.scale (-30)).toFixed 1 ++ " GB"

end TableShell.Size
