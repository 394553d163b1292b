import GeoFilter.Decimal.Layout
import GeoFilter.Decimal.Reading

/-!
# Numbers

A number remembers the kind it was read as: an integer of 32 or 64 bits, or a floating-point number of
single or double precision.  Numbers of all kinds are compared with one another; integers are compared
as integers, everything else in double precision.
-/

namespace GeoFilter

/-- A number of one of four kinds. -/
inductive Number where
  | integer (value : Int32)
  | long (value : Int64)
  | float (value : Float32)
  | double (value : Float)

namespace Number

/-- Equality of kind and value; a NaN equals nothing. -/
def same : Number → Number → Bool
  | .integer a, .integer b => a == b
  | .long a, .long b => a == b
  | .float a, .float b => a == b
  | .double a, .double b => a == b
  | _, _ => false

instance : BEq Number := ⟨same⟩

/-- The number a text writes without a fraction: of the narrowest integer kind that holds it, else in
double precision. -/
def readIntegral? (text : String) : Option Number :=
  match Decimal.readInt32? text with
  | some n => some (.integer n)
  | none =>
    match Decimal.readInt64? text with
    | some n => some (.long n)
    | none => (Decimal.readFloat? text).map .double

def readFloating? (text : String) : Option Number :=
  (Decimal.readFloat? text).map .double

def negate? : Number → Option Number
  | .integer n => (Decimal.int32? (-n.toInt)).map .integer
  | .long n => (Decimal.int64? (-n.toInt)).map .long
  | .float x => some (.float (-x))
  | .double x => some (.double (-x))

def toFloat : Number → Float
  | .integer n => Floating.ofInt n.toInt
  | .long n => Floating.ofInt n.toInt
  | .float x => Floating.widen x
  | .double x => x

def toInt? : Number → Option Int
  | .integer n => some n.toInt
  | .long n => some n.toInt
  | .float _ | .double _ => none

/-- The order of two numbers; a NaN has none. -/
def compare? (a b : Number) : Option Ordering :=
  match a.toInt?, b.toInt? with
  | some m, some n => some (compare m n)
  | _, _ => Floating.compare? a.toFloat b.toFloat

def toText : Number → String
  | .integer n => toString n.toInt
  | .long n => toString n.toInt
  | .float x => Decimal.showFloat32 x
  | .double x => Decimal.showFloat x

end Number

end GeoFilter
