import GeoFilter.Geometry
import GeoFilter.Proofs.Rounding.Packing

/-!
# Equality of geometries

Equality of coordinates, lines and polygons, and of lists of them, is symmetric and transitive, and that of geometries is
symmetric.  None is reflexive: a NaN equals nothing, so what has a NaN in it does not equal itself.
-/

namespace GeoFilter

instance Floating.partialEquivBEq : PartialEquivBEq Float where
  symm := Floating.beq_symm
  trans := Floating.beq_trans

instance listPartialEquivBEq [BEq α] [PartialEquivBEq α] : PartialEquivBEq (List α) where
  symm {as bs} h := by
    induction as generalizing bs with
    | nil =>
      cases bs with
      | nil => rfl
      | cons => cases h
    | cons a as ih =>
      cases bs with
      | nil => cases h
      | cons b bs =>
        rw [List.cons_beq_cons, Bool.and_eq_true] at h ⊢
        exact ⟨BEq.symm h.1, ih h.2⟩
  trans {as bs cs} h h' := by
    induction as generalizing bs cs with
    | nil =>
      cases bs with
      | nil => exact h'
      | cons => cases h
    | cons a as ih =>
      cases bs with
      | nil => cases h
      | cons b bs =>
        cases cs with
        | nil => cases h'
        | cons c cs =>
          rw [List.cons_beq_cons, Bool.and_eq_true] at h h' ⊢
          exact ⟨BEq.trans h.1 h'.1, ih h.2 h'.2⟩

theorem partialEquivBEq_of_parts [BEq α] [BEq β] [PartialEquivBEq β] [BEq γ] [PartialEquivBEq γ] (part : α → β)
    (part' : α → γ) (h : ∀ a b : α, (a == b) = (part a == part b && part' a == part' b)) : PartialEquivBEq α where
  symm {a b} hab := by
    rw [h, Bool.and_eq_true] at hab ⊢
    exact ⟨BEq.symm hab.1, BEq.symm hab.2⟩
  trans {a b c} hab hbc := by
    rw [h, Bool.and_eq_true] at hab hbc ⊢
    exact ⟨BEq.trans hab.1 hbc.1, BEq.trans hab.2 hbc.2⟩

instance Coordinate.partialEquivBEq : PartialEquivBEq Coordinate :=
  partialEquivBEq_of_parts Coordinate.x Coordinate.y fun _ _ => rfl

instance LineString.partialEquivBEq : PartialEquivBEq LineString where
  symm h := BEq.symm (α := List Coordinate) h
  trans h h' := BEq.trans (α := List Coordinate) h h'

instance Polygon.partialEquivBEq : PartialEquivBEq Polygon :=
  partialEquivBEq_of_parts Polygon.shell Polygon.holes fun _ _ => rfl

namespace Geometry

mutual

theorem same_symm : (a b : Geometry) → same a b = true → same b a = true
  | .point _, b, h => by
    cases b with
    | point => exact BEq.symm (α := Coordinate) h
    | _ => cases h
  | .lineString _, b, h => by
    cases b with
    | lineString => exact BEq.symm (α := LineString) h
    | _ => cases h
  | .polygon _, b, h => by
    cases b with
    | polygon => exact BEq.symm (α := Polygon) h
    | _ => cases h
  | .multiPoint _, b, h => by
    cases b with
    | multiPoint => exact BEq.symm (α := List Coordinate) h
    | _ => cases h
  | .multiLineString _, b, h => by
    cases b with
    | multiLineString => exact BEq.symm (α := List LineString) h
    | _ => cases h
  | .multiPolygon _, b, h => by
    cases b with
    | multiPolygon => exact BEq.symm (α := List Polygon) h
    | _ => cases h
  | .collection as, b, h => by
    cases b with
    | collection bs => exact sameList_symm as bs h
    | _ => cases h

theorem sameList_symm : (as bs : List Geometry) → sameList as bs = true → sameList bs as = true
  | [], [], _ => rfl
  | a :: as, b :: bs, h => by
    obtain ⟨hab, hmore⟩ := Bool.and_eq_true_iff.mp h
    exact Bool.and_eq_true_iff.mpr ⟨same_symm a b hab, sameList_symm as bs hmore⟩

end

theorem beq_comm (a b : Geometry) : (a == b) = (b == a) :=
  Bool.eq_iff_iff.mpr ⟨same_symm a b, same_symm b a⟩

end Geometry

end GeoFilter
