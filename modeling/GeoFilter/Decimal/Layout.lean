import GeoFilter.Decimal.Shortest
import GeoFilter.Floating

/-!
# Writing floating-point numbers

A number is written with the digits of `Decimal.shortest`.  A `Layout` decides where they stand:
`Layout.general` is how numbers are shown in filters, always with a point or an exponent;
`Layout.plain` is how coordinates are shown in geometry text, never with an exponent.
-/

namespace GeoFilter.Decimal

open Float.Model

/-- Where the digits of a number are written. -/
structure Layout where
  /-- The exponents of the leading digit for which no exponent is written. -/
  positional : Int → Bool
  /-- What follows a number without a fraction. -/
  wholeEnd : List Char

/-- Numbers from 0.0001 up to 10^16 are positional and have a fraction digit; all others are written
with an exponent. -/
def Layout.general : Layout where
  positional e := -4 ≤ e && e < 16
  wholeEnd := ['.', '0']

/-- All numbers are positional, and whole numbers have no fraction. -/
def Layout.plain : Layout where
  positional _ := true
  wholeEnd := []

def positionalChars (wholeEnd : List Char) (digits : List Char) (exponent : Int) : List Char :=
  let point := digits.length + exponent
  if 0 ≤ exponent then digits ++ List.replicate exponent.toNat '0' ++ wholeEnd
  else if 0 < point then digits.take point.toNat ++ '.' :: digits.drop point.toNat
  else ['0', '.'] ++ List.replicate (-point).toNat '0' ++ digits

/-- One digit, the others after a point, and the exponent of the first. -/
def scientificChars (digits : List Char) (order : Int) : List Char :=
  let mantissa := match digits with
    | d :: d' :: ds => d :: '.' :: d' :: ds
    | ds => ds
  mantissa ++ 'e' :: ((if order < 0 then ['-'] else []) ++ Nat.toDigits 10 order.natAbs)

def Layout.chars (layout : Layout) (d : Decimal) : List Char :=
  let digits := Nat.toDigits 10 d.digits
  let order := digits.length + d.exponent - 1
  if layout.positional order then positionalChars layout.wholeEnd digits d.exponent
  else scientificChars digits order

def signChars : UnpackedFloat.Sign → List Char
  | .positive => []
  | .negative => ['-']

/-- A number of a binary format in a layout.  A NaN shows no sign. -/
def Layout.write (layout : Layout) (format : Format) (x : UnpackedFloat) : String :=
  String.ofList <| match x with
    | .notANumber => ['N', 'a', 'N']
    | .infinity sign => signChars sign ++ ['i', 'n', 'f']
    | .zero sign => signChars sign ++ '0' :: layout.wholeEnd
    | .finite sign mantissa exponent _ =>
      let narrow := mantissa = Nat.pow 2 format.mantissaBitsWithoutImplicit
        && format.minExponent < exponent
      signChars sign ++ layout.chars (shortest mantissa exponent narrow)

def showFloat (x : Float) : String :=
  Layout.general.write Format.binary64 (Floating.fields x)

def showFloat32 (x : Float32) : String :=
  Layout.general.write Format.binary32 (Floating.fields32 x)

def showOrdinate (x : Float) : String :=
  Layout.plain.write Format.binary64 (Floating.fields x)

end GeoFilter.Decimal
