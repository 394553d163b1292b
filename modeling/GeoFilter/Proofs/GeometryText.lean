import GeoFilter.Proofs.Row

/-!
# Geometry texts

The texts of geometries as trees: keywords in any case, coordinates of signed numbers, and rows of one or more
parts in parentheses.  A text writes a geometry of the same parts in the same order, if its lines have two points
at least and its rings have four and are closed.
-/

namespace GeoFilter

/-! ### Coordinates -/

/-- The text of a coordinate: two ordinates. -/
structure Position where
  x : SignedNumber
  y : SignedNumber

namespace Position

def tokens (p : Position) : List Token := p.x.tokens ++ p.y.tokens

/-- The coordinate that the ordinates are, in double precision. -/
def coordinate (p : Position) : Coordinate := ⟨p.x.value.toFloat, p.y.value.toFloat⟩

end Position

/-- The text of a point among others, with parentheses around it or without. -/
structure MemberPosition where
  position : Position
  enclosed : Bool

def MemberPosition.tokens (m : MemberPosition) : List Token :=
  if m.enclosed then .sign .leftParen :: (m.position.tokens ++ [.sign .rightParen]) else m.position.tokens

/-! ### Lines and polygons -/

abbrev LineText := Row Position

/-- The text of a polygon: its rings, the shell first. -/
abbrev PolygonText := Row LineText

namespace Row

def IsLine (points : LineText) : Prop := minLinePoints ≤ points.toList.length

/-- Whether there are enough points for a ring and the last one is the first. -/
def IsRing (points : LineText) : Prop :=
  minRingPoints ≤ points.toList.length ∧ points.first.coordinate.same points.last.coordinate = true

def line? (points : LineText) : Option LineString :=
  (LineString.ofPoints (points.toList.map Position.coordinate)).toOption

def polygon? (rings : PolygonText) : Option Polygon := do
  let lines ← rings.values? line?
  (Polygon.ofRings lines.first lines.others).toOption

theorem line?_eq_some {points : LineText} {line : LineString} (h : points.line? = some line) :
    line.points = points.toList.map Position.coordinate := by
  unfold line? LineString.ofPoints at h
  split at h
  · cases h
    rfl
  · cases h

theorem isSome_line? (points : LineText) : points.line?.isSome ↔ points.IsLine := by
  have hlength : (points.toList.map Position.coordinate).length = points.toList.length := List.length_map _
  unfold line? LineString.ofPoints IsLine
  split
  case isTrue henough => exact iff_of_true rfl (hlength ▸ henough)
  case isFalse hfew => exact iff_of_false Bool.false_ne_true (hlength ▸ hfew)

theorem isClosed_line {points : LineText} {line : LineString} (h : points.line? = some line) :
    line.isClosed = points.first.coordinate.same points.last.coordinate := by
  rw [LineString.isClosed, line?_eq_some h, List.head?_map, List.getLast?_map, toList, List.getLast?_cons,
    last, List.getLastD_eq_getLast?]
  rfl

theorem ringFault_line {points : LineText} {line : LineString} (h : points.line? = some line) :
    line.ringFault? = none ↔ points.IsRing := by
  have hlength : line.points.length = points.toList.length := by
    rw [line?_eq_some h, List.length_map]
  rw [LineString.ringFault?, hlength, isClosed_line h, IsRing]
  split
  case isTrue hfew => simp; omega
  case isFalse henough =>
    split <;> simp_all

theorem isSome_ofRings (shell : LineString) (holes : List LineString) :
    (Polygon.ofRings shell holes).toOption.isSome ↔ ∀ line ∈ shell :: holes, line.ringFault? = none := by
  have hfault : Polygon.ringsFault? (shell :: holes) = none ↔ _ := List.findSome?_eq_none_iff
  rw [← hfault]
  unfold Polygon.ofRings
  split
  case h_1 fault h => rw [h]; exact iff_of_false Bool.false_ne_true nofun
  case h_2 h => exact iff_of_true rfl h

theorem isSome_polygon? (rings : PolygonText) : rings.polygon?.isSome ↔ ∀ ring ∈ rings.toList, ring.IsRing := by
  cases hlines : rings.values? line? with
  | none =>
    -- a ring of too few points for a line has too few for a ring
    have hnone : ¬(rings.values? line?).isSome := by simp [hlines]
    rw [isSome_values?] at hnone
    rw [polygon?, hlines]
    refine iff_of_false Bool.false_ne_true fun hrings => hnone fun ring hring => ?_
    have henough := (hrings ring hring).1
    rw [isSome_line?, IsLine]
    unfold minRingPoints at henough
    unfold minLinePoints
    omega
  | some lines =>
    rw [polygon?, hlines]
    change (Polygon.ofRings lines.first lines.others).toOption.isSome ↔ _
    rw [isSome_ofRings]
    exact (forall_mem_iff (values?_eq_some.mp hlines) fun ring line h => (ringFault_line h).symm).symm

end Row

/-! ### Texts -/

/-- A word without quotes that is the keyword of a kind of geometry text, in any case. -/
structure ShapeWord (shape : Shape) where
  text : String
  names : Keyword.ofText? text = some (.shape shape)

def ShapeWord.token (word : ShapeWord shape) : Token := .word word.text none

/-- A geometry text. -/
inductive GeometryText where
  | point (word : ShapeWord .point) (position : Position)
  | lineString (word : ShapeWord .lineString) (points : LineText)
  | polygon (word : ShapeWord .polygon) (rings : PolygonText)
  | multiPoint (word : ShapeWord .multiPoint) (points : Row MemberPosition)
  | multiLineString (word : ShapeWord .multiLineString) (lines : Row LineText)
  | multiPolygon (word : ShapeWord .multiPolygon) (polygons : Row PolygonText)
  | collection (word : ShapeWord .collection) (first : GeometryText) (others : List GeometryText)

namespace GeometryText

mutual

def tokens : GeometryText → List Token
  | point word p => word.token :: .sign .leftParen :: (p.tokens ++ [.sign .rightParen])
  | lineString word points => word.token :: points.tokens Position.tokens
  | polygon word rings => word.token :: rings.tokens (Row.tokens Position.tokens)
  | multiPoint word points => word.token :: points.tokens MemberPosition.tokens
  | multiLineString word lines => word.token :: lines.tokens (Row.tokens Position.tokens)
  | multiPolygon word polygons => word.token :: polygons.tokens (Row.tokens (Row.tokens Position.tokens))
  | collection word first others =>
    word.token :: .sign .leftParen :: (tokens first ++ moreTokens others ++ [.sign .rightParen])

/-- The tokens of the members of a collection after the first one. -/
def moreTokens : List GeometryText → List Token
  | [] => []
  | t :: ts => .sign .comma :: (tokens t ++ moreTokens ts)

end

mutual

/-- How many collections are open at most at any point of a text. -/
def depth : GeometryText → Nat
  | collection _ first others => max (depth first) (depthOfAll others) + 1
  | _ => 0

/-- How many collections are open at most at any point of some texts. -/
def depthOfAll : List GeometryText → Nat
  | [] => 0
  | t :: ts => max (depth t) (depthOfAll ts)

end

mutual

/-- Whether every line has enough points, and every ring of a polygon has enough and is closed. -/
def WellFormed : GeometryText → Prop
  | point _ _ => True
  | lineString _ points => points.IsLine
  | polygon _ rings => ∀ ring ∈ rings.toList, ring.IsRing
  | multiPoint _ _ => True
  | multiLineString _ lines => ∀ line ∈ lines.toList, line.IsLine
  | multiPolygon _ polygons => ∀ rings ∈ polygons.toList, ∀ ring ∈ rings.toList, ring.IsRing
  | collection _ first others => WellFormed first ∧ AllWellFormed others

def AllWellFormed : List GeometryText → Prop
  | [] => True
  | t :: ts => WellFormed t ∧ AllWellFormed ts

end

mutual

/-- The geometry that a text writes: the coordinates, rings and members of the text in their order. -/
def value? : GeometryText → Option Geometry
  | point _ p => some (.point p.coordinate)
  | lineString _ points => points.line?.map .lineString
  | polygon _ rings => rings.polygon?.map .polygon
  | multiPoint _ points => some (.multiPoint (points.toList.map fun m => m.position.coordinate))
  | multiLineString _ lines => (lines.values? Row.line?).map fun ls => .multiLineString ls.toList
  | multiPolygon _ polygons => (polygons.values? Row.polygon?).map fun ps => .multiPolygon ps.toList
  | collection _ first others => do
    let g ← value? first
    let gs ← values? others
    return .collection (g :: gs)

def values? : List GeometryText → Option (List Geometry)
  | [] => some []
  | t :: ts => do
    let g ← value? t
    let gs ← values? ts
    return g :: gs

end

/-! ### What well-formed texts write -/

mutual

theorem isSome_value? : ∀ t : GeometryText, t.value?.isSome ↔ t.WellFormed
  | point _ _ => by simp [value?, WellFormed]
  | lineString _ points => by simp [value?, WellFormed, Row.isSome_line?]
  | polygon _ rings => by simp [value?, WellFormed, Row.isSome_polygon?]
  | multiPoint _ _ => by simp [value?, WellFormed]
  | multiLineString _ lines => by simp [value?, WellFormed, Row.isSome_values?, Row.isSome_line?]
  | multiPolygon _ polygons => by simp [value?, WellFormed, Row.isSome_values?, Row.isSome_polygon?]
  | collection _ first others => by
    rw [value?, WellFormed, ← isSome_value? first, ← isSome_values? others]
    cases value? first <;> cases values? others <;> simp

theorem isSome_values? : ∀ ts : List GeometryText, (values? ts).isSome ↔ AllWellFormed ts
  | [] => by simp [values?, AllWellFormed]
  | t :: ts => by
    rw [values?, AllWellFormed, ← isSome_value? t, ← isSome_values? ts]
    cases value? t <;> cases values? ts <;> simp

end

/-! ### Members -/

theorem moreTokens_eq (ts : List GeometryText) : moreTokens ts = ts.flatMap fun t => .sign .comma :: t.tokens := by
  induction ts with
  | nil => rfl
  | cons t ts ih => rw [moreTokens, ih, List.flatMap_cons, List.cons_append]

theorem values?_eq (ts : List GeometryText) : values? ts = ts.mapM value? := by
  induction ts with
  | nil => rfl
  | cons t ts ih => rw [values?, ih, List.mapM_cons]

theorem depth_le_depthOfAll {t : GeometryText} {ts : List GeometryText} (ht : t ∈ ts) :
    t.depth ≤ depthOfAll ts := by
  induction ts with
  | nil => cases ht
  | cons t' ts ih =>
    rw [depthOfAll]
    rcases List.mem_cons.mp ht with rfl | ht
    · exact Nat.le_max_left _ _
    · exact Nat.le_trans (ih ht) (Nat.le_max_right _ _)

end GeometryText

end GeoFilter
