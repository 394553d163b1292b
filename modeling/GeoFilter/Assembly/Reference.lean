import GeoFilter.Assembly

/-!
# Assembly of geometry literals

Geometry literals and the reference systems they are qualified with.  A system is written in one of
three ways: a number before the geometry, or a code after the bounds of an ENVELOPE or of a BBOX.
-/

namespace GeoFilter.Assembly

def popGeometryLiteral : Assembly GeometryLiteral := do
  return (← popHolding "geometry literal" Node.geometryLiteral?).1

/-- Qualifies a literal with the reference system of a number; the token is where the number stands. -/
def attachCrs (resolver : CrsResolver) (literal : GeometryLiteral) (srid : Int32)
    (token : SourceToken) : Assembly GeometryLiteral :=
  match resolver srid with
  | .ok crs => pure { literal with crs := some crs }
  | .error e => failWith ⟨.unresolvedSrid srid, token, some e⟩

/-- Qualifies a literal with the reference system of a code, if a code is given. -/
def attachCode (resolver : CrsResolver) (literal : GeometryLiteral) :
    Option SourceToken → Assembly GeometryLiteral
  | none => pure literal
  | some code => do
    let srid ← orFind (Crs.parseCode? code.text) (.invalidSrid code)
    attachCrs resolver literal srid code

def pushLiteral (production : Production) (literal : GeometryLiteral) (token : SourceToken) :
    Assembly Unit :=
  push production (.literal (.geometry literal)) token

def geometryLiteral (token : SourceToken) : Assembly Unit := do
  let g ← ofStack ResultsStack.popGeometry
  pushLiteral .geometryLiteral ⟨g, none⟩ token

/-- The number of a reference system in an entry that was read as one. -/
def sridOf (e : Entry) : Assembly Int32 :=
  match e.production, e.node with
  | .srid, .number (.integer n) => pure n
  | .srid, .number _ => failWith (.invalidSrid e.token)
  | production, _ => failDefect (.mismatch "SRID" production)

def sridGeometryLiteral (resolver : CrsResolver) (token : SourceToken) : Assembly Unit := do
  let literal ← popGeometryLiteral
  let entry ← pop
  let srid ← sridOf entry
  let qualified ← attachCrs resolver literal srid entry.token
  pushLiteral .sridGeometryLiteral qualified token

/-- A literal qualified with the number in a token of the reduction. -/
def geometryLiteralWithSrid (resolver : CrsResolver) (token : SourceToken) :
    List SourceToken → Assembly Unit
  | [] => failDefect (.missingToken .geometryLiteralWithSrid)
  | number :: _ => do
    let srid ← orFind (Decimal.readInt32? (Text.trimmed number.text)) (.invalidSrid number)
    let literal ← popGeometryLiteral
    let qualified ← attachCrs resolver literal srid number
    pushLiteral .geometryLiteralWithSrid qualified token

def boundOf (token : SourceToken) : Assembly Float :=
  orFind (Decimal.readFloat? token.text) (.invalidNumber token)

/-- The literal of a rectangle from the tokens of its bounds, the greatest ordinate before the least, and
of its reference system if there is one. -/
def envelope (resolver : CrsResolver) (token : SourceToken) : List SourceToken → Assembly Unit
  | west :: east :: north :: south :: code => do
    let minX ← boundOf west
    let maxX ← boundOf east
    let maxY ← boundOf north
    let minY ← boundOf south
    let rectangle := Polygon.rectangle (Envelope.between minX maxX minY maxY)
    let literal ← attachCode resolver ⟨.polygon rectangle, none⟩ code.head?
    pushLiteral .envelope literal token
  | _ => failDefect (.missingToken .envelope)

end GeoFilter.Assembly
