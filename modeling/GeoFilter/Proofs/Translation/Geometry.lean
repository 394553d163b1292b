import GeoFilter.Grammar.Geometry
import GeoFilter.Proofs.Translation.Number

/-!
# Geometry text, translated

The geometry that a geometry text writes and the reference system it is qualified with.
-/

namespace GeoFilter

/-- A geometry, or the finding that coordinates make none. -/
def orDegenerate (token : SourceToken) (r : Except GeometryError α) : Except Finding α :=
  r.mapError fun e => ⟨.degenerateGeometry e, token, none⟩

/-- A geometry with the reference system of a number; the token is where the number stands. -/
def qualified (resolver : CrsResolver) (g : Geometry) (srid : Int32) (token : SourceToken) :
    Except Finding GeometryLiteral :=
  match resolver srid with
  | .ok crs => .ok ⟨g, some crs⟩
  | .error e => .error ⟨.unresolvedSrid srid, token, some e⟩

/-- A geometry with the reference system of a code, if a code is given. -/
def qualifiedByCode (resolver : CrsResolver) (g : Geometry) :
    Option SourceToken → Except Finding GeometryLiteral
  | none => .ok ⟨g, none⟩
  | some code =>
    match Crs.parseCode? code.text with
    | some srid => qualified resolver g srid code
    | none => .error (.invalidSrid code)

/-- A geometry with the reference system of a number that was read before it. -/
def qualifiedByNumber (resolver : CrsResolver) (g : Geometry) (n : Number) (token : SourceToken) :
    Except Finding GeometryLiteral :=
  match n with
  | .integer srid => qualified resolver g srid token
  | _ => .error (.invalidSrid token)

/-- A geometry with the reference system of the number in a token. -/
def qualifiedByToken (resolver : CrsResolver) (g : Geometry) (token : SourceToken) :
    Except Finding GeometryLiteral :=
  match Decimal.readInt32? (Text.trimmed token.text) with
  | some srid => qualified resolver g srid token
  | none => .error (.invalidSrid token)

def boundOf (token : SourceToken) : Except Finding Float :=
  orFinding (Decimal.readFloat? token.text) (.invalidNumber token)

/-- The rectangle between two abscissas and two ordinates, each pair in either order. -/
def rectangle (x x' y y' : Float) : Geometry :=
  .polygon (Polygon.rectangle (Envelope.between x x' y y'))

/-- The rectangle of the tokens of its bounds, with the reference system of a code if one is given. -/
def rectangleOf (resolver : CrsResolver) (west east north south : SourceToken)
    (code : Option SourceToken) : Except Finding GeometryLiteral := do
  let minX ← boundOf west
  let maxX ← boundOf east
  let maxY ← boundOf north
  let minY ← boundOf south
  qualifiedByCode resolver (rectangle minX maxX minY maxY) code

namespace Translation

open Phrase (here accept next require)

variable (u : Setting)

def coordinate : Translation Coordinate := do
  let (x, n) ← signedNumber u .ordinate
  let (y, _) ← signedNumber u .ordinate
  complete u .coordinate [Grammar.withSign n] (.ok ⟨x.toFloat, y.toFloat⟩)

def lineBody (role : GeometryRole) (token : SourceToken) : Translation LineString := do
  let (p, ps) ← parenthesized (commaSeparated (coordinate u))
  complete u (.lineStringText role) [token] (orDegenerate token (LineString.ofPoints (p :: ps)))

def ring : Translation LineString := do
  let token ← read (here "a ring")
  lineBody u .ring token

def polygonBody (role : GeometryRole) (token : SourceToken) : Translation Polygon := do
  let (shell, holes) ← parenthesized (commaSeparated (ring u))
  complete u (.polygonText role) [token] (orDegenerate token (Polygon.ofRings shell holes))

/-- A point among others, with or without parentheses. -/
def memberPoint : Translation Coordinate := do
  let token ← read (here "a point")
  match ← read (accept .leftParen) with
  | some _ =>
    let p ← coordinate u
    read (require .rightParen)
    complete u (.pointText .multiPointMember) [token] (.ok p)
  | none =>
    let p ← coordinate u
    complete u (.pointText .multiPointMember) [token] (.ok p)

def memberLine : Translation LineString := do
  let token ← read (here "a line")
  lineBody u .multiLineStringMember token

def memberPolygon : Translation Polygon := do
  let token ← read (here "a polygon")
  polygonBody u .multiPolygonMember token

def shapeBody (member? : Option (Translation Geometry)) (role : GeometryRole) (token : SourceToken) :
    Shape → Translation Geometry
  | .point => do
    let p ← parenthesized (coordinate u)
    complete u (.pointText role) [token] (.ok (.point p))
  | .lineString => do
    let line ← lineBody u role token
    return .lineString line
  | .polygon => do
    let region ← polygonBody u role token
    return .polygon region
  | .multiPoint => do
    let (p, ps) ← parenthesized (commaSeparated (memberPoint u))
    complete u (.multiPointText role) [token] (.ok (.multiPoint (p :: ps)))
  | .multiLineString => do
    let (l, ls) ← parenthesized (commaSeparated (memberLine u))
    complete u (.multiLineStringText role) [token] (.ok (.multiLineString (l :: ls)))
  | .multiPolygon => do
    let (r, rs) ← parenthesized (commaSeparated (memberPolygon u))
    complete u (.multiPolygonText role) [token] (.ok (.multiPolygon (r :: rs)))
  | .collection => do
    complete u .collectionStart [token] (.ok ())
    let (g, gs) ← parenthesized (commaSeparated (nested member? token))
    complete u (.collectionText role) [token] (.ok (.collection (g :: gs)))

def shapeText (member? : Option (Translation Geometry)) (role : GeometryRole) :
    Translation Geometry := do
  match (← read Phrase.peek).bind Token.keyword? with
  | some (.shape shape) =>
    let token ← read (next "a geometry type")
    shapeBody u member? role token shape
  | _ => read (Phrase.unexpected "a geometry type")

/-- A geometry text with the given number of levels left for nesting. -/
def geometryText : Nat → GeometryRole → Translation Geometry
  | 0, role => shapeText u none role
  | levels + 1, role => shapeText u (some (geometryText levels .collectionMember)) role

def geometryLiteral (levels : Nat) : Translation Geometry := do
  let keyword ← read (here "a geometry")
  let g ← geometryText u levels .root
  complete u .geometryLiteral [keyword] (.ok g)

/-- A geometry literal after the number of its reference system. -/
def sridLiteral (levels : Nat) : Translation GeometryLiteral := do
  let keyword ← read (next "SRID")
  read (require .equal)
  match u.dialect with
  | .cql =>
    let (n, srid) ← signedNumber u .srid
    read (require .semicolon)
    let g ← geometryLiteral u levels
    complete u .sridGeometryLiteral [keyword]
      (qualifiedByNumber u.kit.resolver g n (srid.1.getD srid.2))
  | .ecql =>
    let srid ← read Grammar.signed
    read (require .semicolon)
    let g ← geometryLiteral u levels
    complete u .geometryLiteralWithSrid [keyword, Grammar.withSign srid]
      (qualifiedByToken u.kit.resolver g (Grammar.withSign srid))

def envelopeBound : Translation SourceToken := do
  match u.dialect with
  | .cql =>
    let (_, n) ← signedNumber u .envelopeComponent
    return Grammar.withSign n
  | .ecql =>
    let n ← read Grammar.signed
    return Grammar.withSign n

def envelope : Translation GeometryLiteral := do
  let keyword ← read (next "ENVELOPE")
  read (require .leftParen)
  let west ← envelopeBound u
  read (require .comma)
  let east ← envelopeBound u
  read (require .comma)
  let north ← envelopeBound u
  read (require .comma)
  let south ← envelopeBound u
  let code ← read Grammar.referenceSystem?
  read (require .rightParen)
  complete u .envelope ([keyword, west, east, north, south] ++ code)
    (rectangleOf u.kit.resolver west east north south code.head?)

end Translation

end GeoFilter
