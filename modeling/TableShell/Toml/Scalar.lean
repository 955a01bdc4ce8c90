import TableShell.Number.Reading
import TableShell.Toml.Item
import TableShell.Toml.Quoted

/-!
# Single values

Numbers, dates, truth values and texts. Digits can be grouped by single underscores. Integers have
64 bits, and a real number that is too large is refused.
-/

namespace TableShell.Toml

/-! ### Numbers -/

/-- Read digits with single underscores between them. -/
def digitGroups (p : Char → Bool) : Scanner (List Char) := do
  let first ← Scanner.satisfying p
  let more ← Scanner.many do
    let _ ← Scanner.optionally (Scanner.char '_')
    Scanner.satisfying p
  return first :: more

/-- Read a decimal number without leading zeros. -/
def decimalDigits : Scanner (List Char) := do
  match ← Scanner.peek? with
  | some '0' => Scanner.times 1 isDigit
  | _ => digitGroups isDigit

/-- Read a sign, and whether it is a minus. -/
def sign : Scanner (List Char) :=
  (do Scanner.char '-'; return ['-']) <|> (do Scanner.char '+'; return ['+']) <|> pure []

/-- Read an integer in a base that is announced by two characters. -/
def integerInBase (mark : String) (base : Nat) (isBaseDigit : Char → Bool) : Scanner Int := do
  Scanner.exactly mark
  let n := valueInBase base (← digitGroups isBaseDigit)
  if n ≤ maxInteger then return n else failure

/-- Read a decimal integer. -/
def decimalInteger : Scanner Int := do
  let s ← sign
  let digits ← decimalDigits
  match readInteger? (.ofList (s ++ digits)) with
  | some n => return n
  | none => failure

/-- Read an integer. -/
def integer : Scanner Int :=
  integerInBase "0x" 16 isHexDigit <|>
    integerInBase "0o" 8 (fun c => '0' ≤ c && c ≤ '7') <|>
    integerInBase "0b" 2 (fun c => c == '0' || c == '1') <|>
    decimalInteger

/-- Read the exponent of a real number. -/
def exponentPart : Scanner (List Char) := do
  let _ ← Scanner.satisfying fun c => c == 'e' || c == 'E'
  let s ← sign
  return 'e' :: s ++ (← digitGroups isDigit)

/-- Read the places behind the point of a real number, and its exponent. -/
def fractionPart : Scanner (List Char) := do
  Scanner.char '.'
  let places ← digitGroups isDigit
  return '.' :: places ++ (← exponentPart <|> pure [])

/-- Read a real number in digits. -/
def digitReal : Scanner Binary64 := do
  let s ← sign
  let whole ← decimalDigits
  let rest ← exponentPart <|> fractionPart
  match Binary64.readChars? (s ++ whole ++ rest) with
  | some (.infinite false) => failure
  | some x => return x
  | none => failure

/-- Read an infinity, or the value that is not a number. -/
def namedReal : Scanner Binary64 := do
  let s ← sign
  (do Scanner.exactly "inf"; return .infinite (s == ['-'])) <|>
    (do Scanner.exactly "nan"; return .nan)

/-! ### Dates and times -/

/-- Read two digits with a value in a range. -/
def twoDigits (least greatest : Nat) : Scanner Nat := do
  let n := valueOfDigits (← Scanner.times 2 isDigit)
  if least ≤ n && n ≤ greatest then return n else failure

/-- The number of days in a month. -/
def daysIn (year month : Nat) : Nat :=
  let leap := year % 4 == 0 && (year % 100 != 0 || year % 400 == 0)
  if month == 2 then if leap then 29 else 28
  else if month == 4 || month == 6 || month == 9 || month == 11 then 30
  else 31

/-- Read a date. -/
def date : Scanner Unit := do
  let year := valueOfDigits (← Scanner.times 4 isDigit)
  Scanner.char '-'
  let month ← twoDigits 1 12
  Scanner.char '-'
  let _ ← twoDigits 1 (daysIn year month)

/-- Read a time of day. -/
def timeOfDay : Scanner Unit := do
  let _ ← twoDigits 0 23
  Scanner.char ':'
  let _ ← twoDigits 0 59
  Scanner.char ':'
  let _ ← twoDigits 0 60
  let _ ← Scanner.optionally do
    Scanner.char '.'
    Scanner.runOf1 isDigit

/-- Read the difference of a time to universal time. -/
def zone : Scanner Unit :=
  (do let _ ← Scanner.satisfying fun c => c == 'Z' || c == 'z') <|>
    (do
      let _ ← Scanner.satisfying fun c => c == '+' || c == '-'
      let _ ← twoDigits 0 23
      Scanner.char ':'
      let _ ← twoDigits 0 59)

/-- Read a date, a time of day, or a date with a time. -/
def moment : Scanner Unit :=
  (do
    date
    let _ ← Scanner.optionally do
      let _ ← Scanner.satisfying fun c => c == 'T' || c == 't' || c == ' '
      timeOfDay
      let _ ← Scanner.optionally zone) <|> timeOfDay

/-- Read something and return its characters. -/
def spelling (s : Scanner Unit) : Scanner String := do
  let before ← get
  s
  let after ← get
  return .ofList (before.take (before.length - after.length))

/-! ### Values -/

/-- Read a truth value. -/
def boolean : Scanner Bool :=
  (do Scanner.exactly "true"; return true) <|> (do Scanner.exactly "false"; return false)

/-- Read a value that is not made of others. A number is tried in its longer forms first. -/
def scalar : Scanner Item :=
  (do return .string (← quotedText)) <|>
    (do return .moment (← spelling moment)) <|>
    (do return .real (← digitReal <|> namedReal)) <|>
    (do return .integer (← integer)) <|>
    (do return .boolean (← boolean))

end TableShell.Toml
