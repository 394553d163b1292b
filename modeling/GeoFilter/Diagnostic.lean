import GeoFilter.Crs
import GeoFilter.Geometry
import GeoFilter.Place

/-!
# Diagnostics

What can be wrong with a statement, where, and how it is told: a `Fault` with its wording, the token it
was found at, and the error that a caller of a compiler receives, which quotes the statement and can
point at the token with a caret.
-/

namespace GeoFilter

/-- A piece of a statement with the place where it starts. -/
structure SourceToken where
  text : String
  place : Place
  deriving DecidableEq, Repr

namespace SourceToken

def synthetic (text : String) : SourceToken := ⟨text, ⟨0, 0⟩⟩

def toText (t : SourceToken) : String :=
  s!"'{t.text}' at line {t.place.line}, column {t.place.column}"

end SourceToken

/-- What is wrong with a statement. -/
inductive Fault where
  /-- Another token than the grammar allows. -/
  | unexpected (expected found : String)
  /-- The end where the grammar wants a token. -/
  | endReached (expected : String)
  /-- Text that makes no tokens. -/
  | unscannable (message : String)
  /-- A text that is no pattern of the nine-intersection model. -/
  | invalidDe9im (pattern : String)
  /-- A reference system that the resolver does not know. -/
  | unresolvedSrid (srid : Int32)
  /-- A text that is no number of a reference system. -/
  | invalidSrid (srid : String)
  /-- Coordinates that make no geometry. -/
  | degenerateGeometry (error : GeometryError)
  /-- A number that no numeric kind holds. -/
  | invalidNumber (number : String)
  /-- A text that is no unit of distance. -/
  | invalidUnits (units : String)
  /-- More levels of nesting than allowed. -/
  | tooDeep (limit : Nat)
  deriving DecidableEq, Repr

def Fault.message : Fault → String
  | .unexpected expected found => s!"expected {expected} but found {found}"
  | .endReached expected => s!"expected {expected} but statement ended"
  | .unscannable message => s!"could not scan statement: {message}"
  | .invalidDe9im pattern =>
    s!"DE-9IM pattern '{pattern}' must be 9 characters long, each one of T, F, *, 0, 1, 2"
  | .unresolvedSrid srid => s!"SRID {srid.toInt} could not be resolved"
  | .invalidSrid srid => s!"'{srid}' is not a valid SRID"
  | .degenerateGeometry error => s!"invalid geometry: {error.message}"
  | .invalidNumber number => s!"'{number}' is not a representable number"
  | .invalidUnits units =>
    s!"unknown distance units '{units}', expected one of meters, kilometers, feet, "
      ++ "statute miles, nautical miles"
  | .tooDeep limit => s!"statement is nested deeper than {limit} levels"

/-- A fault, the token it was found at, and the resolver's error if that led to it. -/
structure Finding where
  fault : Fault
  token : SourceToken
  cause : Option CrsError := none
  deriving DecidableEq, Repr

namespace Finding

def unexpected (expected : String) (token : SourceToken) : Finding :=
  ⟨.unexpected expected token.text, token, none⟩

def invalidSrid (token : SourceToken) : Finding :=
  ⟨.invalidSrid token.text, token, none⟩

def invalidNumber (token : SourceToken) : Finding :=
  ⟨.invalidNumber token.text, token, none⟩

end Finding

/-- What the caller of a compiler is told: a finding in a statement. -/
structure CompileError extends Finding where
  statement : String
  deriving DecidableEq, Repr

def Finding.inStatement (f : Finding) (statement : String) : CompileError :=
  { f with statement }

namespace CompileError

/-- The fault, the token and the statement, followed by the cause if there is one. -/
def message (e : CompileError) : String :=
  s!"{e.fault.message} near {e.token.toText} in \"{e.statement}\""
    ++ match e.cause with
      | some cause => ": " ++ cause.message
      | none => ""

/-- The line of the token with a caret under the token's first character. -/
def caret (e : CompileError) : String :=
  let line := (textLines e.statement.toList)[e.token.place.line - 1]?.getD []
  let padding := List.replicate (e.token.place.column - 1) ' '
  String.ofList (line ++ '\n' :: padding ++ ['^'])

end CompileError

end GeoFilter
