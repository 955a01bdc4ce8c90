import TableShell.Number.Integer
import TableShell.Number.Binary64
import TableShell.Text.Search

/-!
# Reading floating-point numbers

A number is written as an optional sign, decimal digits with at most one point among or around
them, and an optional exponent; the names of the infinities and of the value that is not a number
are read in any case of letters. The number read is the one nearest to the decimal value.
-/

namespace TableShell.Binary64

/-! ### Decimal values -/

/-- The number nearest to `digits * 10 ^ exponent`, where `digits` is below `10 ^ count`. A value
of at least `10 ^ 311` is infinite and one below `10 ^ (-330)` is zero, so no power of ten beyond
those is computed. -/
def ofDecimal (negative : Bool) (digits count : Nat) (exponent : Int) : Binary64 :=
  if digits == 0 then .finite negative 0 0
  else if exponent + count < -330 then .finite negative 0 0
  else if 310 < exponent then .infinite negative
  else
    ofFraction negative (digits * Nat.pow 10 exponent.toNat) (Nat.pow 10 (-exponent).toNat)

/-- Read an exponent: an optional sign and at least one digit, up to the end. -/
def readExponent? : List Char → Option Int
  | '+' :: cs => (readDigits? cs).map Int.ofNat
  | '-' :: cs => (readDigits? cs).map fun n => -(n : Int)
  | cs => (readDigits? cs).map Int.ofNat

/-- Read an unsigned decimal number: digits, possibly a point and more digits, with at least one
digit in all, and possibly an exponent after an `e` of either case. -/
def readDecimal? (negative : Bool) (cs : List Char) : Option Binary64 :=
  let whole := cs.takeWhile isDigit
  let rest := cs.dropWhile isDigit
  let (fraction, rest) := match rest with
    | '.' :: more => (more.takeWhile isDigit, more.dropWhile isDigit)
    | _ => ([], rest)
  let digits := whole ++ fraction
  if digits.isEmpty then none
  else
    let exponent := match rest with
      | [] => some 0
      | c :: more => if c == 'e' || c == 'E' then readExponent? more else none
    exponent.map fun e =>
      ofDecimal negative (valueOfDigits digits) digits.length (e - fraction.length)

/-- Read a number without its sign. -/
def readUnsigned? (negative : Bool) (cs : List Char) : Option Binary64 :=
  let small := cs.map Char.toLower
  if small == "inf".toList || small == "infinity".toList then some (.infinite negative)
  else if small == "nan".toList then some .nan
  else readDecimal? negative cs

/-- Read a number. -/
def readChars? : List Char → Option Binary64
  | '-' :: cs => readUnsigned? true cs
  | '+' :: cs => readUnsigned? false cs
  | cs => readUnsigned? false cs

/-- Read a number from a string. -/
def read? (s : String) : Option Binary64 :=
  readChars? s.toList

end TableShell.Binary64
