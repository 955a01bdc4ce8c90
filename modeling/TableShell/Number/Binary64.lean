/-!
# Binary floating-point numbers

Numbers of the 64-bit binary format as exact values. A finite number is a sign, a mantissa and a
power of two; every operation computes the exact result over the integers and rounds it once, to
the nearest number of the format and to the even mantissa in the middle between two.
-/

namespace TableShell

/-- A number of the 64-bit binary format. -/
inductive Binary64 where
  /-- Not a number. -/
  | nan
  /-- An infinity. -/
  | infinite (negative : Bool)
  /-- The value `mantissa * 2 ^ exponent` with a sign; both zeros have the mantissa `0`. -/
  | finite (negative : Bool) (mantissa : Nat) (exponent : Int)
  deriving Repr, DecidableEq, Inhabited

/-- The quotient of two natural numbers, rounded to the nearest whole number and to the even one
in the middle between two. -/
def roundedQuotient (num den : Nat) : Nat :=
  let q := num / den
  let r := num % den
  if 2 * r < den then q
  else if 2 * r > den then q + 1
  else if q % 2 == 0 then q
  else q + 1

/-- The value `n * 2 ^ e` as a fraction. -/
def scaledFraction (n : Nat) (e : Int) : Nat × Nat :=
  (n * Nat.pow 2 e.toNat, Nat.pow 2 (-e).toNat)

namespace Binary64

/-! ### Rounding -/

/-- The exponent of the leading bit of a positive fraction: the `k` with
`2 ^ k ≤ num / den < 2 ^ (k + 1)`. -/
def leadingExponent (num den : Nat) : Int :=
  let k : Int := (num.log2 : Int) - den.log2
  if den * Nat.pow 2 k.toNat ≤ num * Nat.pow 2 (-k).toNat then k else k - 1

/-- The number nearest to a fraction. The mantissa gets 53 bits, or fewer below the least normal
number; what reaches `2 ^ 1024` after rounding is infinite. -/
def ofFraction (negative : Bool) (num den : Nat) : Binary64 :=
  if num == 0 then .finite negative 0 0
  else
    let e := max (leadingExponent num den - 52) (-1074)
    let mantissa := roundedQuotient (num * Nat.pow 2 (-e).toNat) (den * Nat.pow 2 e.toNat)
    if 971 < e || (e == 971 && 0x20000000000000 ≤ mantissa) then .infinite negative
    else .finite negative mantissa e

/-- The number nearest to a natural number. -/
def ofNat (n : Nat) : Binary64 :=
  ofFraction false n 1

/-- The number nearest to an integer. -/
def ofInt (i : Int) : Binary64 :=
  ofFraction (decide (i < 0)) i.natAbs 1

/-- The number multiplied by a power of two. -/
def scale (x : Binary64) (k : Int) : Binary64 :=
  match x with
  | .finite negative mantissa exponent =>
    let (num, den) := scaledFraction mantissa (exponent + k)
    ofFraction negative num den
  | x => x

/-! ### Order -/

/-- The order of two finite values given as signed fractions. -/
def compareFractions (a : Int) (b : Nat) (c : Int) (d : Nat) : Ordering :=
  compare (a * d) (c * b)

/-- A finite value as a signed fraction. -/
def signedFraction (negative : Bool) (mantissa : Nat) (exponent : Int) : Int × Nat :=
  let (num, den) := scaledFraction mantissa exponent
  (if negative then -(num : Int) else num, den)

/-- The numeric order. A value that is not a number is not comparable with anything, and the two
zeros are equal. -/
def compare? : Binary64 → Binary64 → Option Ordering
  | .nan, _ => none
  | _, .nan => none
  | .infinite s, .infinite t => some (compare t s)
  | .infinite s, .finite .. => some (if s then .lt else .gt)
  | .finite .., .infinite t => some (if t then .gt else .lt)
  | .finite s m e, .finite t n f =>
    let (a, b) := signedFraction s m e
    let (c, d) := signedFraction t n f
    some (compareFractions a b c d)

/-- Numeric equality: false where one side is not a number. -/
def equals (x y : Binary64) : Bool :=
  x.compare? y == some .eq

/-! ### Whole numbers -/

/-- The value without its fraction as an unsigned number of at most `limit`: negative values and
what is not a number give `0`, larger values give `limit`. -/
def truncate (limit : Nat) : Binary64 → Nat
  | .nan => 0
  | .infinite negative => if negative then 0 else limit
  | .finite negative mantissa exponent =>
    if negative then 0
    else
      let (num, den) := scaledFraction mantissa exponent
      min (num / den) limit

end Binary64

end TableShell
