import SeriesQuery.Number.Binary64

/-!
The shortest decimal that reads back to a binary number. Grids of powers of ten are tried from
the coarsest down; the first that has a point among the reals rounding to the number gives the
fewest digits.
-/

namespace SeriesQuery

/-- The number `digits * 10 ^ exponent`. -/
structure Decimal where
  digits : Nat
  exponent : Int
  deriving DecidableEq

namespace Decimal

/-- Plain notation: every place is written out and there is never an exponent. -/
def positional (d : Decimal) : List Char :=
  let written := Nat.toDigits 10 d.digits
  let places := (-d.exponent).toNat
  if places = 0 then written ++ List.replicate d.exponent.toNat '0'
  else
    let padded := List.replicate (places + 1 - written.length) '0' ++ written
    padded.take (padded.length - places) ++ '.' :: padded.drop (padded.length - places)

/-- The power of ten that the first digit counts. -/
def magnitude (d : Decimal) : Int := d.exponent + (Nat.toDigits 10 d.digits).length - 1

/-- Scientific notation: the first digit, the others after a point, and the power of ten. -/
def scientific (d : Decimal) : List Char :=
  let written := Nat.toDigits 10 d.digits
  written.take 1 ++ (if written.length = 1 then [] else '.' :: written.drop 1) ++
    ['e', if d.magnitude < 0 then '-' else '+'] ++ Nat.toDigits 10 d.magnitude.natAbs

/-- Plain notation with a point for magnitudes from -5 to 15, and scientific beyond them. -/
def compact (d : Decimal) : List Char :=
  if d.magnitude < -5 ∨ 15 < d.magnitude then d.scientific
  else if d.positional.contains '.' then d.positional
  else d.positional ++ ['.', '0']

end Decimal

namespace Binary64

/-- A quarter of the last place, counted in units of `10 ^ k`, as a fraction. -/
def quarterPlace (x : Binary64) (k : Int) : Nat × Nat :=
  (Nat.pow 2 (x.exponent - 2).toNat * Nat.pow 10 (-k).toNat,
    Nat.pow 2 (2 - x.exponent).toNat * Nat.pow 10 k.toNat)

/-- The lower end of the reals that round to the number, in quarters of its last place. It is
nearer at a power of two, where the places below are half as wide. -/
def lowerEnd (x : Binary64) : Nat :=
  if x.fraction = 0 ∧ 1 < x.exponentField then 4 * x.significand - 1 else 4 * x.significand - 2

def upperEnd (x : Binary64) : Nat :=
  4 * x.significand + 2

/-- Whether `d * 10 ^ k` rounds to the number without its sign. A tie goes to the even
significand, so the ends belong to it. -/
def readsBack (x : Binary64) (k : Int) (d : Nat) : Bool :=
  let (num, den) := x.quarterPlace k
  if x.significand % 2 = 0 then x.lowerEnd * num ≤ d * den && d * den ≤ x.upperEnd * num
  else x.lowerEnd * num < d * den && d * den < x.upperEnd * num

/-- The multiple of `10 ^ k` nearest to the number among those that read back, the greater of
two equally near. -/
def onGrid? (x : Binary64) (k : Int) : Option Nat :=
  let (num, den) := x.quarterPlace k
  let below := 4 * x.significand * num / den
  match x.readsBack k below, x.readsBack k (below + 1) with
  | true, true =>
    some (if 8 * x.significand * num < (2 * below + 1) * den then below else below + 1)
  | true, false => some below
  | false, true => some (below + 1)
  | false, false => none

/-- The first grid with a point that reads back, from `10 ^ k` down through `fuel` finer ones. -/
def shortestFrom (x : Binary64) : Nat → Int → Decimal
  | 0, k => ⟨(x.onGrid? k).getD 0, k⟩
  | fuel + 1, k =>
    match x.onGrid? k with
    | some d => ⟨d, k⟩
    | none => x.shortestFrom fuel (k - 1)

/-- The shortest decimal of a finite number other than zero. The finest grid, `10 ^ -1074`, has
every such number on it. -/
def shortest (x : Binary64) : Decimal :=
  x.shortestFrom 1382 308

/-- A finite number in plain notation. Zero keeps its sign. -/
def decimalText (x : Binary64) : String :=
  (if x.isNegative then "-" else "") ++
    if x.isZero then "0" else String.ofList x.shortest.positional

/-- A finite number in compact notation. Zero keeps its sign. -/
def compactText (x : Binary64) : String :=
  (if x.isNegative then "-" else "") ++
    if x.isZero then "0.0" else String.ofList x.shortest.compact

/-- The name of a number that has no decimal text. -/
def nonFiniteName (x : Binary64) : String :=
  if x.isNaN then "NaN" else if x.isNegative then "-inf" else "inf"

end Binary64

end SeriesQuery
