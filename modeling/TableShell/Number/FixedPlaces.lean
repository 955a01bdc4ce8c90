import TableShell.Number.Binary64

/-!
# Printing with a fixed number of decimal places

A finite number is printed as its exact value rounded to the given number of decimal places, with
the even last digit in the middle between two. The sign is kept, also on a zero.
-/

namespace TableShell.Binary64

/-- The digits of `n` with a point before the last `places` of them; there is always a digit in
front of the point. -/
def withPoint (places n : Nat) : String :=
  let digits := (n / Nat.pow 10 places).repr
  if places == 0 then digits
  else
    let fraction := (n % Nat.pow 10 places).repr
    digits ++ "." ++ .ofList (List.replicate (places - fraction.length) '0') ++ fraction

/-- The text of a number with `places` decimal places. -/
def toFixed (places : Nat) : Binary64 → String
  | .nan => "NaN"
  | .infinite negative => if negative then "-inf" else "inf"
  | .finite negative mantissa exponent =>
    let (num, den) := scaledFraction mantissa exponent
    let rounded := roundedQuotient (num * Nat.pow 10 places) den
    (if negative then "-" else "") ++ withPoint places rounded

end TableShell.Binary64
