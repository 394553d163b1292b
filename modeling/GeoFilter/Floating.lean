/-!
# Floating-point numbers

The fields of a floating-point number, the exact step from single to double precision, the rounding of
integers, and the order of numbers, in which a NaN is comparable to nothing.
-/

namespace GeoFilter.Floating

open Float.Model

def fields (x : Float) : UnpackedFloat :=
  UnpackedFloat.unpack Format.binary64 x.toBits.toBitVec

def fields32 (x : Float32) : UnpackedFloat :=
  UnpackedFloat.unpack Format.binary32 x.toBits.toBitVec

def widen (x : Float32) : Float :=
  let exact : UnpackedFloat → UnpackedFloat
    | .finite sign mantissa exponent _ => .round Format.binary64 sign mantissa exponent
    | special => special
  Float.ofBits (UInt64.ofBitVec (UnpackedFloat.pack Format.binary64 (exact (fields32 x))))

def ofInt (n : Int) : Float :=
  let x := Float.ofScientific n.natAbs false 0
  if n < 0 then -x else x

/-- The order of two numbers; a NaN has none. -/
def compare? (x y : Float) : Option Ordering :=
  if x < y then some .lt
  else if x == y then some .eq
  else if y < x then some .gt
  else none

/-- The smaller of two numbers, the first if they are equal, and the other one if one is NaN. -/
def least (x y : Float) : Float :=
  if x.isNaN then y else if y < x then y else x

/-- The larger of two numbers, the first if they are equal, and the other one if one is NaN. -/
def greatest (x y : Float) : Float :=
  if x.isNaN then y else if x < y then y else x

end GeoFilter.Floating
