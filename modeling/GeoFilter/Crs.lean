import GeoFilter.Decimal.Reading
import GeoFilter.Text.Blank
import GeoFilter.Text.Case

/-!
# Coordinate reference systems

A reference system is known by its number in the EPSG catalogue.  A `CrsResolver` answers which
system a number stands for; the resolver of a `CrsRegistry` knows the registered systems and the
UTM zones.
-/

namespace GeoFilter

/-- A reference system. -/
structure Crs where
  srid : Int32
  name : String
  deriving DecidableEq, Repr

namespace Crs

def code (crs : Crs) : String :=
  "EPSG:" ++ toString crs.srid.toInt

def toText (crs : Crs) : String :=
  crs.code ++ " (" ++ crs.name ++ ")"

/-- The number in a code such as `EPSG:4326`, in any case, or a number alone; blanks around either part
are ignored. -/
def parseCode? (code : String) : Option Int32 :=
  let cs := Text.trimChars code.toList
  let (authority, rest) := (cs.takeWhile (· ≠ ':'), cs.dropWhile (· ≠ ':'))
  match rest with
  | [] => Decimal.readInt32? (Text.trimmed (String.ofList authority))
  | _ :: number =>
    if Text.sameIgnoringAsciiCase (String.ofList authority) "EPSG" then
      Decimal.readInt32? (Text.trimmed (String.ofList number))
    else none

end Crs

/-- Why a number stands for no reference system. -/
inductive CrsError where
  /-- No catalogue number at all. -/
  | invalidCode (srid : Int32)
  /-- A number that is not registered. -/
  | unknownCode (srid : Int32)
  deriving DecidableEq, Repr

def CrsError.message : CrsError → String
  | .invalidCode srid => toString srid.toInt ++ " is not a valid EPSG code"
  | .unknownCode srid => "no coordinate reference system registered for EPSG:" ++ toString srid.toInt

abbrev CrsResolver := Int32 → Except CrsError Crs

/-- The names of known reference systems; of two entries with one number the first counts. -/
structure CrsRegistry where
  known : List (Int32 × String)

namespace CrsRegistry

def empty : CrsRegistry := ⟨[]⟩

def wellKnown : CrsRegistry := ⟨[
  (2154, "RGF93 / Lambert-93"),
  (3035, "ETRS89-extended / LAEA Europe"),
  (3857, "WGS 84 / Pseudo-Mercator"),
  (4258, "ETRS89"),
  (4269, "NAD83"),
  (4326, "WGS 84"),
  (27700, "OSGB 1936 / British National Grid"),
  (900913, "Google Maps Global Mercator")]⟩

def register (registry : CrsRegistry) (srid : Int32) (name : String) : CrsRegistry :=
  ⟨(srid, name) :: registry.known⟩

/-- The name of a UTM zone: 60 zones from 32601 in the north and from 32701 in the south. -/
def utmZone? (srid : Int32) : Option String :=
  let n := srid.toInt
  if 32600 < n ∧ n ≤ 32660 then some ("WGS 84 / UTM zone " ++ toString (n - 32600) ++ "N")
  else if 32700 < n ∧ n ≤ 32760 then some ("WGS 84 / UTM zone " ++ toString (n - 32700) ++ "S")
  else none

def resolver (registry : CrsRegistry) : CrsResolver := fun srid =>
  if srid.toInt ≤ 0 then .error (.invalidCode srid)
  else
    match (registry.known.lookup srid).or (utmZone? srid) with
    | some name => .ok ⟨srid, name⟩
    | none => .error (.unknownCode srid)

end CrsRegistry

end GeoFilter
