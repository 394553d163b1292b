import GeoFilter.Decimal

/-!
# Reading numbers

Numbers as they stand in a text.  An integer is an optional sign and digits.  A floating-point
number is an optional sign, digits with an optional point among them and an optional exponent, or
one of the words `inf`, `infinity` and `nan` in any case.  Digits are ASCII digits, and nothing may
stand before or after.
-/

namespace GeoFilter.Decimal

def digitsValue (ds : List Char) : Nat :=
  ds.foldl (fun n d => 10 * n + (d.toNat - 48)) 0

def splitSign : List Char → Bool × List Char
  | '-' :: cs => (true, cs)
  | '+' :: cs => (false, cs)
  | cs => (false, cs)

def readDigits? (cs : List Char) : Option Nat :=
  if cs ≠ [] ∧ cs.all Char.isDigit then some (digitsValue cs) else none

def readIntChars? (cs : List Char) : Option Int :=
  let (negative, ds) := splitSign cs
  (readDigits? ds).map fun n => if negative then -(n : Int) else n

def readInt? (s : String) : Option Int :=
  readIntChars? s.toList

def int32? (n : Int) : Option Int32 :=
  if -2147483648 ≤ n ∧ n ≤ 2147483647 then some (Int32.ofInt n) else none

def int64? (n : Int) : Option Int64 :=
  if -9223372036854775808 ≤ n ∧ n ≤ 9223372036854775807 then some (Int64.ofInt n) else none

def readInt32? (s : String) : Option Int32 :=
  (readInt? s).bind int32?

def readInt64? (s : String) : Option Int64 :=
  (readInt? s).bind int64?

def readExponent? : List Char → Option Int
  | [] => some 0
  | c :: cs => if c = 'e' ∨ c = 'E' then readIntChars? cs else none

/-- Digits with an optional point among or beside them and an optional exponent. -/
def readUnsigned? (cs : List Char) : Option Decimal :=
  let whole := cs.takeWhile Char.isDigit
  let (fraction, rest) :=
    match cs.dropWhile Char.isDigit with
    | '.' :: r => (r.takeWhile Char.isDigit, r.dropWhile Char.isDigit)
    | r => ([], r)
  if whole ++ fraction = [] then none
  else (readExponent? rest).map fun e => ⟨digitsValue (whole ++ fraction), e - fraction.length⟩

/-- What a floating-point text writes, before it is rounded. -/
inductive Magnitude where
  | finite (d : Decimal)
  | infinite
  | notANumber
  deriving DecidableEq, Repr

def readMagnitude? (cs : List Char) : Option Magnitude :=
  let lower := cs.map Char.toLower
  if lower = "inf".toList ∨ lower = "infinity".toList then some .infinite
  else if lower = "nan".toList then some .notANumber
  else (readUnsigned? cs).map .finite

def readFloat? (s : String) : Option Float :=
  let (negative, cs) := splitSign s.toList
  (readMagnitude? cs).map fun m =>
    let x := match m with
      | .finite d => d.toFloat
      | .infinite => 1.0 / 0.0
      | .notANumber => 0.0 / 0.0
    if negative then -x else x

end GeoFilter.Decimal
