import GeoFilter.Tree.Predicate
import Mathlib.Data.List.Pairwise
import Mathlib.Data.List.Perm.Basic

/-!
# Identifiers in the order in which they are first seen

A set of identifiers holds those of a list, each of them once, in the order of their first places in the list.  No other
list of identifiers does.
-/

namespace GeoFilter.FeatureIdSet

/-- Whether some identifiers are those of a list, in the order in which they first occur there. -/
structure AreFirstSeen (ids firsts : List String) : Prop where
  mem_iff : ∀ id, id ∈ firsts ↔ id ∈ ids
  ordered : firsts.Pairwise fun id id' => ids.idxOf id < ids.idxOf id'

variable {ids firsts firsts' : List String}

theorem AreFirstSeen.nodup (h : AreFirstSeen ids firsts) : firsts.Nodup := by
  refine h.ordered.imp ?_
  rintro id _ hlt rfl
  exact Nat.lt_irrefl _ hlt

theorem AreFirstSeen.unique (h : AreFirstSeen ids firsts) (h' : AreFirstSeen ids firsts') : firsts = firsts' := by
  have hperm : firsts.Perm firsts' :=
    (List.perm_ext_iff_of_nodup h.nodup h'.nodup).mpr fun id => (h.mem_iff id).trans (h'.mem_iff id).symm
  exact hperm.eq_of_pairwise (fun _ _ _ _ hlt hgt => absurd hlt (Nat.lt_asymm hgt)) h.ordered h'.ordered

theorem mem_firstSeen {id : String} : id ∈ firstSeen ids ↔ id ∈ ids := by
  induction ids with
  | nil => exact Iff.rfl
  | cons first ids ih =>
    rw [firstSeen, List.mem_cons, List.mem_cons, List.mem_filter, ih, decide_eq_true_iff]
    by_cases h : id = first <;> simp [h]

theorem areFirstSeen_firstSeen (ids : List String) : AreFirstSeen ids (firstSeen ids) where
  mem_iff _ := mem_firstSeen
  ordered := by
    induction ids with
    | nil => exact .nil
    | cons first ids ih =>
      have hne : ∀ {id}, id ∈ (firstSeen ids).filter (· ≠ first) → first ≠ id := by
        rintro id hid rfl
        simpa using (List.mem_filter.mp hid).2
      rw [firstSeen, List.pairwise_cons]
      refine ⟨fun id hid => ?_, (ih.filter _).imp_of_mem fun hid hid' hlt => ?_⟩
      · rw [List.idxOf_cons_self, List.idxOf_cons_ne _ (hne hid)]
        exact Nat.succ_pos _
      · rw [List.idxOf_cons_ne _ (hne hid), List.idxOf_cons_ne _ (hne hid')]
        exact Nat.succ_lt_succ hlt

theorem nodup_firstSeen (ids : List String) : (firstSeen ids).Nodup :=
  (areFirstSeen_firstSeen ids).nodup

theorem firstSeen_of_nodup (h : ids.Nodup) : firstSeen ids = ids := by
  refine (areFirstSeen_firstSeen ids).unique ⟨fun _ => Iff.rfl, List.pairwise_iff_getElem.mpr fun i j hi hj hlt => ?_⟩
  rwa [h.idxOf_getElem i hi, h.idxOf_getElem j hj]

end GeoFilter.FeatureIdSet
