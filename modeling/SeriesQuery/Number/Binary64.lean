/-!
Binary floating point numbers as their bit patterns. A finite number is
`significand * 2 ^ exponent` up to its sign.
-/

namespace SeriesQuery

structure Binary64 where
  bits : UInt64
  deriving DecidableEq

namespace Binary64

/-- The weight of the sign bit, two to the 63rd power. -/
def signWeight : Nat := 0x8000000000000000

/-- The weight of the lowest bit of the exponent field, two to the 52nd power. -/
def fieldWeight : Nat := 0x10000000000000

def isNegative (x : Binary64) : Bool :=
  x.bits.toNat / signWeight == 1

/-- The eleven bits of the exponent, before the bias is taken off. -/
def exponentField (x : Binary64) : Nat :=
  x.bits.toNat / fieldWeight % 2048

def fraction (x : Binary64) : Nat :=
  x.bits.toNat % fieldWeight

def isFinite (x : Binary64) : Bool :=
  x.exponentField != 2047

def isNaN (x : Binary64) : Bool :=
  x.exponentField == 2047 && x.fraction != 0

def isZero (x : Binary64) : Bool :=
  x.exponentField == 0 && x.fraction == 0

def significand (x : Binary64) : Nat :=
  if x.exponentField = 0 then x.fraction else fieldWeight + x.fraction

def exponent (x : Binary64) : Int :=
  (max x.exponentField 1 : Nat) - 1075

/-- Equality of the numbers denoted: the two zeros are one number, and NaN is none. -/
instance : BEq Binary64 where
  beq x y := !x.isNaN && !y.isNaN && (x.bits == y.bits || x.isZero && y.isZero)

/-- The pattern with the given sign, exponent field and fraction. -/
def pack (negative : Bool) (exponentField fraction : Nat) : Binary64 :=
  ⟨.ofNat ((if negative then signWeight else 0) + exponentField * fieldWeight + fraction)⟩

/-- The number with a 32-bit pattern, which has an exact 64-bit form. A NaN keeps its sign and
payload and is made quiet. -/
def ofBinary32 (bits : UInt32) : Binary64 :=
  let negative := bits.toNat / 0x80000000 == 1
  let field := bits.toNat / 0x800000 % 256
  let fraction := bits.toNat % 0x800000
  if field = 255 then
    pack negative 2047 (if fraction = 0 then 0 else (fraction * 0x20000000) ||| 0x8000000000000)
  else if field = 0 then
    if fraction = 0 then pack negative 0 0
    else
      let top := fraction.log2
      pack negative (top + 874) ((fraction - Nat.pow 2 top) * Nat.pow 2 (52 - top))
  else pack negative (field + 896) (fraction * 0x20000000)

end Binary64

end SeriesQuery
