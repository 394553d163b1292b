import GeoFilter.Decimal

/-!
# The shortest decimal that reads back

A binary floating-point number is the rounding of every real in an interval around it.  Among the
decimals in that interval `shortest` takes one with the fewest digits, and of those the nearest; when
two are equally near it takes the larger.  All comparisons are between natural numbers, so nothing
is rounded on the way.
-/

namespace GeoFilter.Decimal

/-- A positive number with the ends of the interval of reals that round to it, as numerators over a
common denominator.  The ends belong to the interval if it is `closed`. -/
structure Neighbourhood where
  value : Nat
  low : Nat
  high : Nat
  denominator : Nat
  closed : Bool

namespace Neighbourhood

/-- The neighbourhood of `mantissa * 2 ^ exponent`.  The next number above is one unit of the mantissa
away, and so is the next below, unless the number is the first of its binade (`narrow`), where the
one below is half a unit away. -/
def ofBinary (mantissa : Nat) (exponent : Int) (narrow : Bool) : Neighbourhood :=
  let up := Nat.pow 2 (exponent - 2).toNat
  { value := 4 * mantissa * up
    low := (4 * mantissa - if narrow then 1 else 2) * up
    high := (4 * mantissa + 2) * up
    denominator := Nat.pow 2 (2 - exponent).toNat
    closed := mantissa % 2 = 0 }

/-- Both sides of a comparison of `c * 10 ^ k` with a numerator: the first factor goes to the decimal,
the second to the numerator. -/
def gridFactors (n : Neighbourhood) (k : Int) : Nat × Nat :=
  (n.denominator * Nat.pow 10 k.toNat, Nat.pow 10 (-k).toNat)

def contains (n : Neighbourhood) (k : Int) (c : Nat) : Bool :=
  let (u, v) := n.gridFactors k
  if n.closed then n.low * v ≤ c * u && c * u ≤ n.high * v
  else n.low * v < c * u && c * u < n.high * v

def floorOn (n : Neighbourhood) (k : Int) : Nat :=
  let (u, v) := n.gridFactors k
  n.value * v / u

/-- Whether the number is nearer to `c * 10 ^ k` than to the next multiple of `10 ^ k`. -/
def nearerBelow (n : Neighbourhood) (k : Int) (c : Nat) : Bool :=
  let (u, v) := n.gridFactors k
  2 * n.value * v < (2 * c + 1) * u

/-- The multiple of `10 ^ k` to write for the number, if one of its two neighbours on that grid rounds
to it. -/
def pick? (n : Neighbourhood) (k : Int) : Option Nat :=
  let c := n.floorOn k
  match n.contains k c, n.contains k (c + 1) with
  | true, true => some (if n.nearerBelow k c then c else c + 1)
  | true, false => some c
  | false, true => some (c + 1)
  | false, false => none

/-- How often `num` has to be multiplied by ten to reach `den`, as far as `fuel` reaches. -/
def decadesBelow : Nat → Nat → Nat → Nat
  | 0, _, _ => 0
  | fuel + 1, num, den => if den ≤ num then 0 else decadesBelow fuel (num * 10) den + 1

def order (n : Neighbourhood) : Int :=
  if n.denominator ≤ n.value then ((Nat.toDigits 10 (n.value / n.denominator)).length : Int) - 1
  else -(decadesBelow (n.denominator.log2 + 1) n.value n.denominator : Int)

/-- Tries one digit after the other, from the grid `10 ^ k` on to finer ones. -/
def search (n : Neighbourhood) : Nat → Int → Decimal
  | 0, k => ⟨n.floorOn k, k⟩
  | fuel + 1, k =>
    match n.pick? k with
    | some c => ⟨c, k⟩
    | none => search n fuel (k - 1)

end Neighbourhood

def maxDigits : Nat := 17

/-- The decimal to write for the positive number `mantissa * 2 ^ exponent`. -/
def shortest (mantissa : Nat) (exponent : Int) (narrow : Bool) : Decimal :=
  let n := Neighbourhood.ofBinary mantissa exponent narrow
  (n.search maxDigits n.order).stripZeros (maxDigits + 1)

end GeoFilter.Decimal
