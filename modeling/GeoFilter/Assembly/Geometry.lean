import GeoFilter.Assembly

/-!
# Assembly of geometries

Geometry text builds its parts from the inside: ordinates make coordinates, coordinates make points and
lines, rings make polygons, and members make collections.  The parts of one geometry are a run of
entries of one tag or role at the top of the stack; a nested collection stops at the entry that marks
its own start.
-/

namespace GeoFilter.Assembly

def orDegenerate (token : SourceToken) (r : Except GeometryError α) : Assembly α :=
  match r with
  | .ok a => pure a
  | .error e => failWith ⟨.degenerateGeometry e, token, none⟩

def point? : Node → Option Coordinate
  | .geometry (.point p) => some p
  | _ => none

def line? : Node → Option LineString
  | .geometry (.lineString line) => some line
  | _ => none

def region? : Node → Option Polygon
  | .geometry (.polygon region) => some region
  | _ => none

def members (role : GeometryRole) (extract : Node → Option α) : Assembly (List α) :=
  drainRun (fun p => p.role? == some role) extract

def coordinate (token : SourceToken) : Assembly Unit := do
  let y ← popFloat
  let x ← popFloat
  push .coordinate (.coordinate ⟨x, y⟩) token

def lineString (token : SourceToken) : Assembly LineString := do
  let points ← drainRun (· == .coordinate) Node.coordinate?
  orDegenerate token (LineString.ofPoints points)

/-- Takes rings and makes a polygon of them, the first one being its shell. -/
def polygon (token : SourceToken) : Assembly Polygon := do
  let rings ← drainRun (· == .lineStringText .ring) line?
  match rings with
  | [] => failDefect (.emptyRun (.polygonText .root))
  | shell :: holes => orDegenerate token (Polygon.ofRings shell holes)

def pushGeometry (production : Production) (token : SourceToken) (work : Assembly Geometry) :
    Assembly Unit := do
  let g ← work
  push production (.geometry g) token

def pointText (role : GeometryRole) (token : SourceToken) : Assembly Unit :=
  pushGeometry (.pointText role) token do
    return .point (← ofStack ResultsStack.popCoordinate)

def lineStringText (role : GeometryRole) (token : SourceToken) : Assembly Unit :=
  pushGeometry (.lineStringText role) token do
    return .lineString (← lineString token)

def polygonText (role : GeometryRole) (token : SourceToken) : Assembly Unit :=
  pushGeometry (.polygonText role) token do
    return .polygon (← polygon token)

def multiPointText (role : GeometryRole) (token : SourceToken) : Assembly Unit :=
  pushGeometry (.multiPointText role) token do
    return .multiPoint (← nonEmpty (.multiPointText role) (← members .multiPointMember point?))

def multiLineStringText (role : GeometryRole) (token : SourceToken) : Assembly Unit :=
  pushGeometry (.multiLineStringText role) token do
    return .multiLineString
      (← nonEmpty (.multiLineStringText role) (← members .multiLineStringMember line?))

def multiPolygonText (role : GeometryRole) (token : SourceToken) : Assembly Unit :=
  pushGeometry (.multiPolygonText role) token do
    return .multiPolygon
      (← nonEmpty (.multiPolygonText role) (← members .multiPolygonMember region?))

def collectionStart (token : SourceToken) : Assembly Unit :=
  push .collectionStart (.raw token.text) token

def collectionText (role : GeometryRole) (token : SourceToken) : Assembly Unit :=
  pushGeometry (.collectionText role) token do
    let parts ← members .collectionMember Node.geometry?
    let _ ← popRaw .collectionStart
    return .collection parts

end GeoFilter.Assembly
