import GeoFilter.Crs
import GeoFilter.Geometry
import GeoFilter.Text.Blank
import GeoFilter.Text.Quoted
import GeoFilter.Tree.Number

/-!
# Literals

The values that expressions have: numbers, texts, truth values, and geometries with the reference
system they were qualified with.
-/

namespace GeoFilter

/-- A geometry and its reference system, if one was given. -/
structure GeometryLiteral where
  geometry : Geometry
  crs : Option Crs := none

namespace GeometryLiteral

def same (a b : GeometryLiteral) : Bool :=
  a.geometry == b.geometry && a.crs == b.crs

instance : BEq GeometryLiteral := ⟨same⟩

/-- The text of the geometry after the number of its reference system. -/
def toText (g : GeometryLiteral) : String :=
  match g.crs with
  | some crs => "SRID=" ++ toString crs.srid.toInt ++ ";" ++ g.geometry.toText
  | none => g.geometry.toText

end GeometryLiteral

/-- A value. -/
inductive Literal where
  | number (value : Number)
  | string (value : String)
  | boolean (value : Bool)
  | geometry (value : GeometryLiteral)

namespace Literal

def same : Literal → Literal → Bool
  | .number a, .number b => a == b
  | .string a, .string b => a == b
  | .boolean a, .boolean b => a == b
  | .geometry a, .geometry b => a == b
  | _, _ => false

instance : BEq Literal := ⟨same⟩

/-- The value as a number: itself, or what a text writes between blanks. -/
def toNumber? : Literal → Option Number
  | .number n => some n
  | .string s => Number.readIntegral? (Text.trimmed s)
  | .boolean _ | .geometry _ => none

/-- The order of two values.  Texts are ordered by code points and false comes before true; geometries
can only be equal; everything else is ordered as numbers. -/
def compare? : Literal → Literal → Option Ordering
  | .string a, .string b => some (compare a b)
  | .boolean a, .boolean b => some (compare a b)
  | .geometry a, .geometry b => if a.geometry == b.geometry then some .eq else none
  | .geometry _, _ | _, .geometry _ => none
  | a, b =>
    match a.toNumber?, b.toNumber? with
    | some m, some n => m.compare? n
    | _, _ => none

def toText : Literal → String
  | .number n => n.toText
  | .string s => Text.singleQuoted s
  | .boolean true => "TRUE"
  | .boolean false => "FALSE"
  | .geometry g => g.toText

end Literal

end GeoFilter
