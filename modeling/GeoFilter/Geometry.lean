import GeoFilter.Decimal.Layout

/-!
# Geometries

Points, lines, polygons and collections of them.  A line has at least two points; the rings of a
polygon are closed and have at least four; the types carry these facts, so no other line or polygon
can be built.  Every geometry has a text and, unless it holds no point at all, an envelope.
-/

namespace GeoFilter

/-- A point of the plane. -/
structure Coordinate where
  x : Float
  y : Float

namespace Coordinate

/-- Equality of both ordinates as numbers: the two zeros are equal and a NaN equals nothing. -/
def same (p q : Coordinate) : Bool :=
  p.x == q.x && p.y == q.y

instance : BEq Coordinate := ⟨same⟩

def toText (p : Coordinate) : String :=
  Decimal.showOrdinate p.x ++ " " ++ Decimal.showOrdinate p.y

end Coordinate

/-- Why coordinates make no line or polygon. -/
inductive GeometryError where
  /-- A line or a ring of too few points. -/
  | tooFewPoints (shape : String) (required found : Nat)
  /-- A ring that does not end where it starts. -/
  | ringNotClosed
  deriving DecidableEq, Repr

def GeometryError.message : GeometryError → String
  | .tooFewPoints shape required found =>
    s!"{shape} requires at least {required} points but {found} were given"
  | .ringNotClosed => "polygon ring must start and end with the same point"

def minLinePoints : Nat := 2

def minRingPoints : Nat := 4

/-- A path of at least two points. -/
structure LineString where
  points : List Coordinate
  enough : minLinePoints ≤ points.length

namespace LineString

def ofPoints (points : List Coordinate) : Except GeometryError LineString :=
  if h : minLinePoints ≤ points.length then .ok ⟨points, h⟩
  else .error (.tooFewPoints "LINESTRING" minLinePoints points.length)

def isClosed (line : LineString) : Bool :=
  line.points.head? == line.points.getLast?

def same (a b : LineString) : Bool :=
  a.points == b.points

instance : BEq LineString := ⟨same⟩

def ringFault? (line : LineString) : Option GeometryError :=
  if line.points.length < minRingPoints then
    some (.tooFewPoints "LINEARRING" minRingPoints line.points.length)
  else if line.isClosed then none
  else some .ringNotClosed

def toText (line : LineString) : String :=
  "(" ++ ", ".intercalate (line.points.map Coordinate.toText) ++ ")"

end LineString

/-- The smallest rectangle, with sides along the axes, around some points. -/
structure Envelope where
  minX : Float
  maxX : Float
  minY : Float
  maxY : Float

namespace Envelope

/-- The rectangle between two abscissas and two ordinates, each pair in either order. -/
def between (x x' y y' : Float) : Envelope where
  minX := Floating.least x x'
  maxX := Floating.greatest x' x
  minY := Floating.least y y'
  maxY := Floating.greatest y' y

def ofPoint (p : Coordinate) : Envelope :=
  between p.x p.x p.y p.y

def expand (a b : Envelope) : Envelope where
  minX := Floating.least a.minX b.minX
  maxX := Floating.greatest a.maxX b.maxX
  minY := Floating.least a.minY b.minY
  maxY := Floating.greatest a.maxY b.maxY

/-- Whether two rectangles share a point; sides and corners belong to them. -/
def intersects (a b : Envelope) : Bool :=
  a.minX ≤ b.maxX && b.minX ≤ a.maxX && a.minY ≤ b.maxY && b.minY ≤ a.maxY

/-- The smallest rectangle around some rectangles, if there are any. -/
def around : List Envelope → Option Envelope
  | [] => none
  | e :: es => some (es.foldl expand e)

def ofPoints (points : List Coordinate) : Option Envelope :=
  around (points.map ofPoint)

end Envelope

/-- A shell and holes in it, all of them rings. -/
structure Polygon where
  shell : LineString
  holes : List LineString
  rings : ∀ ring ∈ shell :: holes, minRingPoints ≤ ring.points.length

namespace Polygon

def ringsFault? (rings : List LineString) : Option GeometryError :=
  rings.findSome? LineString.ringFault?

def ofRings (shell : LineString) (holes : List LineString) : Except GeometryError Polygon :=
  match h : ringsFault? (shell :: holes) with
  | some fault => .error fault
  | none => .ok ⟨shell, holes, by
      intro ring hring
      have hfault := List.findSome?_eq_none_iff.mp h ring hring
      unfold LineString.ringFault? at hfault
      split at hfault
      · simp at hfault
      · omega⟩

/-- The ring around a rectangle, from the least corner over the one above it and back. -/
def rectangle (e : Envelope) : Polygon where
  shell := ⟨[⟨e.minX, e.minY⟩, ⟨e.minX, e.maxY⟩, ⟨e.maxX, e.maxY⟩, ⟨e.maxX, e.minY⟩,
    ⟨e.minX, e.minY⟩], by simp [minLinePoints]⟩
  holes := []
  rings := by simp [minRingPoints]

def same (a b : Polygon) : Bool :=
  a.shell == b.shell && a.holes == b.holes

instance : BEq Polygon := ⟨same⟩

def toText (polygon : Polygon) : String :=
  "(" ++ ", ".intercalate ((polygon.shell :: polygon.holes).map LineString.toText) ++ ")"

end Polygon

/-- A geometry. -/
inductive Geometry where
  | point (p : Coordinate)
  | lineString (line : LineString)
  | polygon (region : Polygon)
  | multiPoint (points : List Coordinate)
  | multiLineString (lines : List LineString)
  | multiPolygon (regions : List Polygon)
  | collection (members : List Geometry)

namespace Geometry

mutual

def same : Geometry → Geometry → Bool
  | .point p, .point q => p == q
  | .lineString a, .lineString b => a == b
  | .polygon a, .polygon b => a == b
  | .multiPoint ps, .multiPoint qs => ps == qs
  | .multiLineString as, .multiLineString bs => as == bs
  | .multiPolygon as, .multiPolygon bs => as == bs
  | .collection as, .collection bs => sameList as bs
  | _, _ => false

def sameList : List Geometry → List Geometry → Bool
  | [], [] => true
  | a :: as, b :: bs => same a b && sameList as bs
  | _, _ => false

end

instance : BEq Geometry := ⟨same⟩

mutual

/-- The smallest rectangle around a geometry; none if it has no point.  Only the shell of a polygon
counts, since its holes lie inside. -/
def envelope : Geometry → Option Envelope
  | .point p => Envelope.ofPoints [p]
  | .lineString line => Envelope.ofPoints line.points
  | .polygon region => Envelope.ofPoints region.shell.points
  | .multiPoint points => Envelope.ofPoints points
  | .multiLineString lines => Envelope.ofPoints (lines.flatMap LineString.points)
  | .multiPolygon regions => Envelope.ofPoints (regions.flatMap fun p => p.shell.points)
  | .collection members => Envelope.around (envelopes members)

def envelopes : List Geometry → List Envelope
  | [] => []
  | member :: members =>
    match envelope member with
    | some e => e :: envelopes members
    | none => envelopes members

end

mutual

def toText : Geometry → String
  | .point p => "POINT(" ++ p.toText ++ ")"
  | .lineString line => "LINESTRING" ++ line.toText
  | .polygon region => "POLYGON" ++ region.toText
  | .multiPoint points =>
    "MULTIPOINT(" ++ ", ".intercalate (points.map fun p => "(" ++ p.toText ++ ")") ++ ")"
  | .multiLineString lines =>
    "MULTILINESTRING(" ++ ", ".intercalate (lines.map LineString.toText) ++ ")"
  | .multiPolygon regions =>
    "MULTIPOLYGON(" ++ ", ".intercalate (regions.map Polygon.toText) ++ ")"
  | .collection members => "GEOMETRYCOLLECTION(" ++ ", ".intercalate (texts members) ++ ")"

def texts : List Geometry → List String
  | [] => []
  | member :: members => toText member :: texts members

end

end Geometry

end GeoFilter
