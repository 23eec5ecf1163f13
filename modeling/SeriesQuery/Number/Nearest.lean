import SeriesQuery.Number.Shortest

/-!
Reading a decimal as the nearest binary number, a tie going to the even significand.
-/

namespace SeriesQuery

/-- The whole number nearest to `num / den`, the even one of two equally near. -/
def roundHalfEven (num den : Nat) : Nat :=
  let below := num / den
  let twice := 2 * (num % den)
  if twice < den then below
  else if den < twice then below + 1
  else below + below % 2

namespace Decimal

def numerator (d : Decimal) : Nat := d.digits * Nat.pow 10 d.exponent.toNat

def denominator (d : Decimal) : Nat := Nat.pow 10 (-d.exponent).toNat

/-- The binary exponent at which the number has 53 bits before the point, or -1074 for a number
too small for that. -/
def binaryExponent (d : Decimal) : Int :=
  let q : Int := d.numerator.log2 - d.denominator.log2 - 53
  let fits :=
    d.numerator * Nat.pow 2 (-q).toNat < 2 * Binary64.fieldWeight * d.denominator * Nat.pow 2 q.toNat
  max (if fits then q else q + 1) (-1074)

/-- The nearest binary number with the given sign, infinity from halfway beyond the greatest
finite one on. A significand that rounds up to 53 bits and one more carries into the exponent. -/
def nearest (d : Decimal) (negative : Bool) : Binary64 :=
  let q := d.binaryExponent
  let m := roundHalfEven (d.numerator * Nat.pow 2 (-q).toNat) (d.denominator * Nat.pow 2 q.toNat)
  let bits := (q + 1074).toNat * Binary64.fieldWeight + m
  if d.digits = 0 then Binary64.pack negative 0 0
  else if 2047 * Binary64.fieldWeight ≤ bits then Binary64.pack negative 2047 0
  else Binary64.pack negative 0 bits

end Decimal

end SeriesQuery
