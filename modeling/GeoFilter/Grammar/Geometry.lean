import GeoFilter.Dialect
import GeoFilter.Grammar.Number

/-!
# Geometry text

Geometries as they are written in statements, alone or qualified with the number of a reference system,
and ENVELOPE, which writes a rectangle by its bounds.
-/

namespace GeoFilter.Grammar

open Phrase

def coordinate : Phrase Unit := do
  let x ← signedNumber .ordinate
  let _ ← signedNumber .ordinate
  reduce .coordinate [x]

def lineBody (role : GeometryRole) (token : SourceToken) : Phrase Unit := do
  parenthesized (commaSeparated coordinate)
  reduce (.lineStringText role) [token]

def ring : Phrase Unit := do
  let token ← here "a ring"
  lineBody .ring token

def polygonBody (role : GeometryRole) (token : SourceToken) : Phrase Unit := do
  parenthesized (commaSeparated ring)
  reduce (.polygonText role) [token]

def memberPoint : Phrase Unit := do
  let token ← here "a point"
  match ← accept .leftParen with
  | some _ =>
    coordinate
    require .rightParen
  | none => coordinate
  reduce (.pointText .multiPointMember) [token]

def memberLine : Phrase Unit := do
  let token ← here "a line"
  lineBody .multiLineStringMember token

def memberPolygon : Phrase Unit := do
  let token ← here "a polygon"
  polygonBody .multiPolygonMember token

/-- What follows the keyword of a geometry text.  The members of a collection are one level deeper. -/
def shapeBody (member? : Option (Phrase Unit)) (role : GeometryRole) (token : SourceToken) :
    Shape → Phrase Unit
  | .point => do
    parenthesized coordinate
    reduce (.pointText role) [token]
  | .lineString => lineBody role token
  | .polygon => polygonBody role token
  | .multiPoint => do
    parenthesized (commaSeparated memberPoint)
    reduce (.multiPointText role) [token]
  | .multiLineString => do
    parenthesized (commaSeparated memberLine)
    reduce (.multiLineStringText role) [token]
  | .multiPolygon => do
    parenthesized (commaSeparated memberPolygon)
    reduce (.multiPolygonText role) [token]
  | .collection => do
    reduce .collectionStart [token]
    parenthesized (commaSeparated (nested member? token))
    reduce (.collectionText role) [token]

def shapeText (member? : Option (Phrase Unit)) (role : GeometryRole) : Phrase Unit := do
  match (← peek).bind Token.keyword? with
  | some (.shape shape) =>
    let token ← next "a geometry type"
    shapeBody member? role token shape
  | _ => unexpected "a geometry type"

/-- A geometry text with the given number of levels left for nesting. -/
def geometryText : Nat → GeometryRole → Phrase Unit
  | 0, role => shapeText none role
  | levels + 1, role => shapeText (some (geometryText levels .collectionMember)) role

def geometryLiteral (levels : Nat) : Phrase Unit := do
  let keyword ← here "a geometry"
  geometryText levels .root
  reduce .geometryLiteral [keyword]

/-- A geometry literal after the number of its reference system.  The base dialect completes the number
as a result of its own, the extended one hands it over as a token. -/
def sridLiteral (dialect : Dialect) (levels : Nat) : Phrase Unit := do
  let keyword ← next "SRID"
  require .equal
  match dialect with
  | .cql =>
    let _ ← signedNumber .srid
    require .semicolon
    geometryLiteral levels
    reduce .sridGeometryLiteral [keyword]
  | .ecql =>
    let srid ← signed
    require .semicolon
    geometryLiteral levels
    reduce .geometryLiteralWithSrid [keyword, withSign srid]

def isCode : Token → Bool
  | .quoted _ => true
  | .number .. => true
  | _ => false

/-- The code of a reference system after a comma, if there is one. -/
def referenceSystem? : Phrase (List SourceToken) := do
  match ← accept .comma with
  | some _ => return [← expectIf isCode "a reference system code"]
  | none => return []

def envelopeBound (dialect : Dialect) : Phrase SourceToken :=
  match dialect with
  | .cql => signedNumber .envelopeComponent
  | .ecql => do return withSign (← signed)

/-- A rectangle by its bounds: least and greatest abscissa, greatest and least ordinate. -/
def envelope (dialect : Dialect) : Phrase Unit := do
  let keyword ← next "ENVELOPE"
  require .leftParen
  let west ← envelopeBound dialect
  require .comma
  let east ← envelopeBound dialect
  require .comma
  let north ← envelopeBound dialect
  require .comma
  let south ← envelopeBound dialect
  let code ← referenceSystem?
  require .rightParen
  reduce .envelope ([keyword, west, east, north, south] ++ code)

end GeoFilter.Grammar
