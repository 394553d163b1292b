import GeoFilter.Proofs.FirstSeen
import GeoFilter.Proofs.Rounding.IsNumber
import GeoFilter.Tree.Factory

/-!
# Well-formed trees

What every tree of a statement is like, whatever the statement: lines and rings have the points they need, rings are
closed, nothing that combines others is empty, no AND or OR has a child of its own kind, and a BBOX has a rectangle on
its right.
-/

namespace GeoFilter

/-! ### Geometries -/

/-- Whether every ring of a polygon has at least four points and is closed. -/
def Polygon.WellFormed (region : Polygon) : Prop :=
  ∀ ring ∈ region.shell :: region.holes, 4 ≤ ring.points.length ∧ ring.isClosed = true

/-- Geometries whose lines, rings and members are as they have to be. -/
inductive Geometry.WellFormed : Geometry → Prop where
  | point {p : Coordinate} : WellFormed (.point p)
  | lineString {line : LineString} (enough : 2 ≤ line.points.length) : WellFormed (.lineString line)
  | polygon {region : Polygon} (rings : region.WellFormed) : WellFormed (.polygon region)
  | multiPoint {points : List Coordinate} (nonempty : points ≠ []) : WellFormed (.multiPoint points)
  | multiLineString {lines : List LineString} (nonempty : lines ≠ [])
    (enough : ∀ line ∈ lines, 2 ≤ line.points.length) : WellFormed (.multiLineString lines)
  | multiPolygon {regions : List Polygon} (nonempty : regions ≠ []) (rings : ∀ region ∈ regions, region.WellFormed) :
    WellFormed (.multiPolygon regions)
  | collection {members : List Geometry} (nonempty : members ≠ []) (hmembers : ∀ member ∈ members, WellFormed member) :
    WellFormed (.collection members)

/-- A polygon that is one closed ring around a rectangle, of five points. -/
structure Polygon.IsRectangle (region : Polygon) : Prop where
  corners : ∃ x x' y y' : Float, region.shell.points = [⟨x, y⟩, ⟨x, y'⟩, ⟨x', y'⟩, ⟨x', y⟩, ⟨x, y⟩]
  closed : region.shell.isClosed = true
  whole : region.holes = []

theorem Polygon.wellFormed_of_ofRings {shell : LineString} {holes : List LineString} {region : Polygon}
    (h : Polygon.ofRings shell holes = .ok region) : region.WellFormed := by
  unfold Polygon.ofRings at h
  split at h
  · cases h
  case h_2 hfault =>
    cases h
    intro ring hring
    have hnone := List.findSome?_eq_none_iff.mp hfault ring hring
    unfold LineString.ringFault? at hnone
    split at hnone
    · cases hnone
    case isFalse henough =>
      refine ⟨Nat.le_of_not_lt henough, ?_⟩
      split at hnone
      · assumption
      · cases hnone

theorem Polygon.isRectangle_between {x x' y y' : Float} (hx : Floating.IsNumber x) (hx' : Floating.IsNumber x')
    (hy : Floating.IsNumber y) (hy' : Floating.IsNumber y') :
    (Polygon.rectangle (Envelope.between x x' y y')).IsRectangle where
  corners := ⟨_, _, _, _, rfl⟩
  closed := by
    have hleast : (Floating.least x x' == Floating.least x x') = true := (hx.least hx').beq_self
    have hleast' : (Floating.least y y' == Floating.least y y') = true := (hy.least hy').beq_self
    exact Bool.and_eq_true_iff.mpr ⟨hleast, hleast'⟩
  whole := rfl

theorem Polygon.IsRectangle.wellFormed {region : Polygon} (h : region.IsRectangle) : region.WellFormed := by
  intro ring hring
  rw [h.whole, List.mem_singleton] at hring
  subst hring
  obtain ⟨x, x', y, y', hcorners⟩ := h.corners
  rw [hcorners]
  exact ⟨by simp, h.closed⟩

/-! ### Expressions -/

/-- Whether the geometry of a value, if it is one, is well formed. -/
def Literal.WellFormed : Literal → Prop
  | .geometry g => g.geometry.WellFormed
  | _ => True

/-- Expressions whose paths are not empty and whose geometries are well formed. -/
inductive Expression.WellFormed : Expression → Prop where
  | property {path : PropertyPath} (nonempty : path.segments ≠ []) : WellFormed (.property path)
  | literal {value : Literal} (hvalue : value.WellFormed) : WellFormed (.literal value)
  | function {name : String} {args : List Expression} (hargs : ∀ arg ∈ args, WellFormed arg) :
    WellFormed (.function name args)
  | arithmetic {op : ArithmeticOp} {left right : Expression} (hleft : WellFormed left) (hright : WellFormed right) :
    WellFormed (.arithmetic op left right)

/-- Whether an expression is a literal that holds a rectangle. -/
def Expression.IsRectangle (x : Expression) : Prop :=
  ∃ region crs, x = .literal (.geometry ⟨.polygon region, crs⟩) ∧ region.IsRectangle

/-! ### Predicates -/

/-- Predicates whose parts are well formed, whose combinations have several children of other kinds, and whose
rectangles are rectangles. -/
inductive Predicate.WellFormed : Predicate → Prop where
  | includeAll : WellFormed .includeAll
  | excludeAll : WellFormed .excludeAll
  | and {children : List Predicate} (several : 2 ≤ children.length) (flat : ∀ ps, .and ps ∉ children)
    (hchildren : ∀ child ∈ children, WellFormed child) : WellFormed (.and children)
  | or {children : List Predicate} (several : 2 ≤ children.length) (flat : ∀ ps, .or ps ∉ children)
    (hchildren : ∀ child ∈ children, WellFormed child) : WellFormed (.or children)
  | not {child : Predicate} (hchild : WellFormed child) : WellFormed (.not child)
  | comparison {op : ComparisonOp} {left right : Expression} (hleft : left.WellFormed) (hright : right.WellFormed) :
    WellFormed (.comparison op left right)
  | spatial {op : SpatialOp} {left right : Expression} (hleft : left.WellFormed) (hright : right.WellFormed)
    (rectangle : op = .bbox → right.IsRectangle) : WellFormed (.spatial op left right)
  | distance {op : DistanceOp} {left right : Expression} {d : Float} {units : DistanceUnits}
    (hleft : left.WellFormed) (hright : right.WellFormed) : WellFormed (.distance op left right d units)
  | featureIds {s : FeatureIdSet} (nonempty : s.ids ≠ []) (distinct : s.ids.Nodup) : WellFormed (.featureIds s)
  | isNull {value : Expression} (hvalue : value.WellFormed) : WellFormed (.isNull value)
  | like {value : Expression} {pattern : String} {ignoringCase : Bool} (hvalue : value.WellFormed) :
    WellFormed (.like value pattern ignoringCase)
  | between {value lower upper : Expression} (hvalue : value.WellFormed) (hlower : lower.WellFormed)
    (hupper : upper.WellFormed) : WellFormed (.between value lower upper)

namespace Predicate

theorem conjuncts_of_ne {p : Predicate} (h : ∀ ps, p ≠ .and ps) : p.conjuncts = [p] := by
  cases p with
  | and children => exact absurd rfl (h children)
  | _ => rfl

theorem disjuncts_of_ne {p : Predicate} (h : ∀ ps, p ≠ .or ps) : p.disjuncts = [p] := by
  cases p with
  | or children => exact absurd rfl (h children)
  | _ => rfl

theorem WellFormed.conjuncts {p : Predicate} (h : p.WellFormed) :
    1 ≤ p.conjuncts.length ∧ (∀ child ∈ p.conjuncts, child.WellFormed) ∧ ∀ ps, .and ps ∉ p.conjuncts := by
  by_cases hand : ∃ ps, p = .and ps
  · obtain ⟨ps, rfl⟩ := hand
    cases h with
    | and several flat hchildren => exact ⟨Nat.le_of_lt several, hchildren, flat⟩
  · have hne : ∀ ps, p ≠ .and ps := fun ps hp => hand ⟨ps, hp⟩
    rw [conjuncts_of_ne hne]
    exact ⟨le_rfl, List.forall_mem_singleton.mpr h, fun ps hps => hne ps (List.mem_singleton.mp hps).symm⟩

theorem WellFormed.disjuncts {p : Predicate} (h : p.WellFormed) :
    1 ≤ p.disjuncts.length ∧ (∀ child ∈ p.disjuncts, child.WellFormed) ∧ ∀ ps, .or ps ∉ p.disjuncts := by
  by_cases hor : ∃ ps, p = .or ps
  · obtain ⟨ps, rfl⟩ := hor
    cases h with
    | or several flat hchildren => exact ⟨Nat.le_of_lt several, hchildren, flat⟩
  · have hne : ∀ ps, p ≠ .or ps := fun ps hp => hor ⟨ps, hp⟩
    rw [disjuncts_of_ne hne]
    exact ⟨le_rfl, List.forall_mem_singleton.mpr h, fun ps hps => hne ps (List.mem_singleton.mp hps).symm⟩

theorem WellFormed.flatAnd {p q : Predicate} (hp : p.WellFormed) (hq : q.WellFormed) : (p.flatAnd q).WellFormed := by
  obtain ⟨hp, hp', hflat⟩ := hp.conjuncts
  obtain ⟨hq, hq', hflat'⟩ := hq.conjuncts
  refine .and ?_ (fun ps hps => ?_) (List.forall_mem_append.mpr ⟨hp', hq'⟩)
  · rw [List.length_append]
    omega
  · exact (List.mem_append.mp hps).elim (hflat ps) (hflat' ps)

/-- A disjunction of well-formed predicates is flat, since each of them is; one alone stands for itself. -/
theorem WellFormed.flatOr {ps : List Predicate} (hne : ps ≠ []) (hps : ∀ p ∈ ps, p.WellFormed) :
    (flatOr ps).WellFormed := by
  have hall : ∀ child ∈ ps.flatMap Predicate.disjuncts, child.WellFormed := by
    intro child hchild
    obtain ⟨p, hp, hchild⟩ := List.mem_flatMap.mp hchild
    exact (hps p hp).disjuncts.2.1 child hchild
  have hflat : ∀ qs, .or qs ∉ ps.flatMap Predicate.disjuncts := by
    intro qs hqs
    obtain ⟨p, hp, hqs⟩ := List.mem_flatMap.mp hqs
    exact (hps p hp).disjuncts.2.2 qs hqs
  have hsome : ps.flatMap Predicate.disjuncts ≠ [] := by
    obtain ⟨p, ps, rfl⟩ := List.exists_cons_of_ne_nil hne
    have hlength := (hps p List.mem_cons_self).disjuncts.1
    exact List.append_ne_nil_of_left_ne_nil (List.ne_nil_of_length_pos hlength) _
  unfold Predicate.flatOr
  split
  case h_1 p heq =>
    rw [heq] at hall
    exact hall p List.mem_cons_self
  case h_2 hmany =>
    refine .or ?_ hflat hall
    rcases hlist : ps.flatMap Predicate.disjuncts with _ | ⟨p, _ | ⟨q, rest⟩⟩
    · exact absurd hlist hsome
    · exact absurd hlist (hmany p)
    · simp

end Predicate

/-! ### Identifiers -/

theorem Predicate.wellFormed_featureIds {ids : List String} (h : ids ≠ []) :
    (Predicate.featureIds (.ofList ids)).WellFormed := by
  obtain ⟨id, ids, rfl⟩ := List.exists_cons_of_ne_nil h
  exact .featureIds (List.cons_ne_nil _ _) (FeatureIdSet.nodup_firstSeen _)

end GeoFilter
