import Mathlib.Data.List.Forall2
import GeoFilter.Tree.Factory

/-!
# Trees without their reference systems

The geometries in a tree, in order, and the tree that is left when their reference systems are forgotten.  A plain
factory puts together what is left and the geometries in the same way whatever the reference systems are.
-/

namespace GeoFilter

def GeometryLiteral.withoutCrs (g : GeometryLiteral) : GeometryLiteral := ⟨g.geometry, none⟩

namespace Literal

/-- A value without the reference system of its geometry. -/
def withoutCrs : Literal → Literal
  | .geometry g => .geometry g.withoutCrs
  | value => value

def geometries : Literal → List GeometryLiteral
  | .geometry g => [g]
  | _ => []

end Literal

namespace Expression

mutual

/-- An expression without the reference systems of its geometries. -/
def withoutCrs : Expression → Expression
  | .property path => .property path
  | .literal value => .literal value.withoutCrs
  | .function name args => .function name (withoutCrsAll args)
  | .arithmetic op left right => .arithmetic op (withoutCrs left) (withoutCrs right)

/-- Some expressions without the reference systems of their geometries. -/
def withoutCrsAll : List Expression → List Expression
  | [] => []
  | x :: xs => withoutCrs x :: withoutCrsAll xs

end

mutual

def geometries : Expression → List GeometryLiteral
  | .property _ => []
  | .literal value => value.geometries
  | .function _ args => geometriesOfAll args
  | .arithmetic _ left right => geometries left ++ geometries right

/-- The geometries in some expressions, in order. -/
def geometriesOfAll : List Expression → List GeometryLiteral
  | [] => []
  | x :: xs => geometries x ++ geometriesOfAll xs

end

theorem withoutCrsAll_eq (xs : List Expression) : withoutCrsAll xs = xs.map withoutCrs := by
  induction xs with
  | nil => rfl
  | cons x xs ih => rw [withoutCrsAll, ih, List.map_cons]

theorem geometriesOfAll_eq (xs : List Expression) : geometriesOfAll xs = xs.flatMap geometries := by
  induction xs with
  | nil => rfl
  | cons x xs ih => rw [geometriesOfAll, ih, List.flatMap_cons]

end Expression

namespace Predicate

mutual

/-- A predicate without the reference systems of its geometries. -/
def withoutCrs : Predicate → Predicate
  | .includeAll => .includeAll
  | .excludeAll => .excludeAll
  | .and children => .and (withoutCrsAll children)
  | .or children => .or (withoutCrsAll children)
  | .not child => .not (withoutCrs child)
  | .comparison op left right => .comparison op left.withoutCrs right.withoutCrs
  | .spatial op left right => .spatial op left.withoutCrs right.withoutCrs
  | .distance op left right d units => .distance op left.withoutCrs right.withoutCrs d units
  | .featureIds ids => .featureIds ids
  | .isNull value => .isNull value.withoutCrs
  | .like value pattern ignoringCase => .like value.withoutCrs pattern ignoringCase
  | .between value lower upper => .between value.withoutCrs lower.withoutCrs upper.withoutCrs

/-- Some predicates without the reference systems of their geometries. -/
def withoutCrsAll : List Predicate → List Predicate
  | [] => []
  | p :: ps => withoutCrs p :: withoutCrsAll ps

end

mutual

def geometries : Predicate → List GeometryLiteral
  | .and children | .or children => geometriesOfAll children
  | .not child => geometries child
  | .comparison _ left right | .spatial _ left right | .distance _ left right _ _ => left.geometries ++ right.geometries
  | .isNull value | .like value _ _ => value.geometries
  | .between value lower upper => value.geometries ++ (lower.geometries ++ upper.geometries)
  | .includeAll | .excludeAll | .featureIds _ => []

def geometriesOfAll : List Predicate → List GeometryLiteral
  | [] => []
  | p :: ps => geometries p ++ geometriesOfAll ps

end

theorem withoutCrsAll_eq (ps : List Predicate) : withoutCrsAll ps = ps.map withoutCrs := by
  induction ps with
  | nil => rfl
  | cons p ps ih => rw [withoutCrsAll, ih, List.map_cons]

theorem geometriesOfAll_eq (ps : List Predicate) : geometriesOfAll ps = ps.flatMap geometries := by
  induction ps with
  | nil => rfl
  | cons p ps ih => rw [geometriesOfAll, ih, List.flatMap_cons]

/-! ### Flat combinations -/

theorem conjuncts_withoutCrs (p : Predicate) : p.withoutCrs.conjuncts = p.conjuncts.map withoutCrs := by
  cases p <;> simp [withoutCrs, conjuncts, withoutCrsAll_eq]

theorem disjuncts_withoutCrs (p : Predicate) : p.withoutCrs.disjuncts = p.disjuncts.map withoutCrs := by
  cases p <;> simp [withoutCrs, disjuncts, withoutCrsAll_eq]

theorem geometries_conjuncts (p : Predicate) : p.conjuncts.flatMap geometries = p.geometries := by
  cases p <;> simp [geometries, conjuncts, geometriesOfAll_eq]

theorem geometries_disjuncts (p : Predicate) : p.disjuncts.flatMap geometries = p.geometries := by
  cases p <;> simp [geometries, disjuncts, geometriesOfAll_eq]

theorem withoutCrs_flatAnd (p q : Predicate) : (p.flatAnd q).withoutCrs = p.withoutCrs.flatAnd q.withoutCrs := by
  rw [flatAnd, flatAnd, withoutCrs, withoutCrsAll_eq, conjuncts_withoutCrs, conjuncts_withoutCrs, List.map_append]

theorem geometries_flatAnd (p q : Predicate) : (p.flatAnd q).geometries = p.geometries ++ q.geometries := by
  rw [flatAnd, geometries, geometriesOfAll_eq, List.flatMap_append, geometries_conjuncts, geometries_conjuncts]

theorem withoutCrs_flatOr (ps : List Predicate) : (flatOr ps).withoutCrs = flatOr (ps.map withoutCrs) := by
  have hdisjuncts : (ps.map withoutCrs).flatMap disjuncts = (ps.flatMap disjuncts).map withoutCrs := by
    simp [List.flatMap_map, List.map_flatMap, disjuncts_withoutCrs]
  unfold flatOr
  rw [hdisjuncts]
  rcases ps.flatMap disjuncts with _ | ⟨p, _ | ⟨q, rest⟩⟩
  · rfl
  · rfl
  · exact congrArg Predicate.or (withoutCrsAll_eq _)

theorem geometries_flatOr (ps : List Predicate) : (flatOr ps).geometries = ps.flatMap geometries := by
  have hdisjuncts : (ps.flatMap disjuncts).flatMap geometries = ps.flatMap geometries := by
    simp [List.flatMap_assoc, geometries_disjuncts]
  rw [← hdisjuncts]
  unfold flatOr
  rcases ps.flatMap disjuncts with _ | ⟨p, _ | ⟨q, rest⟩⟩
  · rfl
  · exact (List.append_nil _).symm
  · exact geometriesOfAll_eq _

end Predicate

/-! ### Trees that differ in their reference systems -/

/-- Trees of some kind that are the same without their reference systems, and whose geometries are related one by
one. -/
structure SameButCrs (erase : α → α) (geometries : α → List GeometryLiteral)
    (R : GeometryLiteral → GeometryLiteral → Prop) (a a' : α) : Prop where
  tree : erase a' = erase a
  geometries : List.Forall₂ R (geometries a) (geometries a')

theorem SameButCrs.all {erase : α → α} {geometries : α → List GeometryLiteral}
    {R : GeometryLiteral → GeometryLiteral → Prop} {as as' : List α}
    (h : List.Forall₂ (SameButCrs erase geometries R) as as') :
    SameButCrs (List.map erase) (List.flatMap geometries) R as as' := by
  induction h with
  | nil => exact ⟨rfl, .nil⟩
  | cons h _ ih =>
    refine ⟨?_, ?_⟩
    · rw [List.map_cons, List.map_cons, h.tree, ih.tree]
    · rw [List.flatMap_cons, List.flatMap_cons]
      exact List.rel_append h.geometries ih.geometries

end GeoFilter
