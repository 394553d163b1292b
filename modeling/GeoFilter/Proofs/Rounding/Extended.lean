import GeoFilter.Proofs.Rounding.IsNumber
import GeoFilter.Proofs.Rounding.Order
import Mathlib.Order.WithBotTop

/-!
# The order of numbers and infinities

What is no NaN has a place among the values with an infinity at either end.  The comparisons are those of the places,
so on such numbers they are the comparisons of a linear order in which the two zeros are one.
-/

namespace GeoFilter.Floating

open Float.Model (Format UnpackedFloat)
open Float.Model.UnpackedFloat

/-- The values with an infinity below and one above. -/
abbrev Extended := WithBotTop ℚ

def endOf : UnpackedFloat.Sign → Extended
  | .negative => ⊥
  | .positive => ⊤

/-- The place of some fields among the values and the infinities. -/
def placeOf : UnpackedFloat → Extended
  | .infinity sign => endOf sign
  | f => ((value? f).getD 0 : ℚ)

/-- The place of a number among the values and the infinities. -/
def place (x : Float) : Extended := placeOf (fields x)

variable {x y z : Float}

theorem isNaN_eq_false_iff : x.isNaN = false ↔ IsNumber x := by
  change (fields x).isNaN = false ↔ fields x ≠ .notANumber
  cases fields x with
  | notANumber => exact ⟨nofun, fun h => absurd rfl h⟩
  | infinity | zero | finite => exact ⟨fun _ => nofun, fun _ => rfl⟩

theorem place_of_value {v : ℚ} (h : value? (fields x) = some v) : place x = ((v : ℚ) : Extended) := by
  unfold place
  cases hx : fields x with
  | notANumber | infinity =>
    rw [hx] at h
    cases h
  | zero | finite =>
    rw [hx] at h
    change (((value? _).getD 0 : ℚ) : Extended) = _
    rw [h]
    rfl

theorem IsNumber.cases (h : IsNumber x) :
    (∃ sign, fields x = .infinity sign) ∨ ∃ v, value? (fields x) = some v := by
  unfold IsNumber at h
  cases hx : fields x with
  | notANumber => exact absurd hx h
  | infinity sign => exact .inl ⟨sign, rfl⟩
  | zero sign => exact .inr ⟨0, rfl⟩
  | finite sign m e hm => cases sign <;> exact .inr ⟨_, rfl⟩

/-! ### Places compare as numbers do -/

theorem compare_coe_coe (v w : ℚ) : compare ((v : ℚ) : Extended) ((w : ℚ) : Extended) = compare v w := by
  rcases lt_trichotomy v w with h | rfl | h
  · rw [compare_lt_iff_lt.mpr h, compare_lt_iff_lt.mpr (WithBotTop.coe_lt_coe.mpr h)]
  · rw [compare_eq_iff_eq.mpr rfl, compare_eq_iff_eq.mpr rfl]
  · rw [compare_gt_iff_gt.mpr h, compare_gt_iff_gt.mpr (WithBotTop.coe_lt_coe.mpr h)]

theorem compare_end_end (s s' : UnpackedFloat.Sign) : compare (endOf s) (endOf s') = compare s s' := by
  have hends : endOf .negative < endOf .positive := WithBot.bot_lt_coe _
  cases s <;> cases s'
  · exact compare_eq_iff_eq.mpr rfl
  · exact compare_lt_iff_lt.mpr hends
  · exact compare_gt_iff_gt.mpr hends
  · exact compare_eq_iff_eq.mpr rfl

theorem endOf_negative_lt (v : ℚ) : endOf .negative < ((v : ℚ) : Extended) := WithBot.bot_lt_coe _

theorem lt_endOf_positive (v : ℚ) : ((v : ℚ) : Extended) < endOf .positive :=
  WithBot.coe_lt_coe.mpr (WithTop.coe_lt_top v)

theorem compare_infinity_value {f : UnpackedFloat} {v : ℚ} (hf : value? f = some v) (s : UnpackedFloat.Sign) :
    (UnpackedFloat.infinity s).compare f = some (compare (endOf s) ((v : ℚ) : Extended)) := by
  cases f with
  | notANumber | infinity => cases hf
  | zero | finite =>
    cases s with
    | negative => exact congrArg some (compare_lt_iff_lt.mpr (endOf_negative_lt v)).symm
    | positive => exact congrArg some (compare_gt_iff_gt.mpr (lt_endOf_positive v)).symm

theorem compare_value_infinity {f : UnpackedFloat} {v : ℚ} (hf : value? f = some v) (s : UnpackedFloat.Sign) :
    f.compare (.infinity s) = some (compare ((v : ℚ) : Extended) (endOf s)) := by
  cases f with
  | notANumber | infinity => cases hf
  | zero | finite =>
    cases s with
    | negative => exact congrArg some (compare_gt_iff_gt.mpr (endOf_negative_lt v)).symm
    | positive => exact congrArg some (compare_lt_iff_lt.mpr (lt_endOf_positive v)).symm

theorem compare_fields_place (hx : IsNumber x) (hy : IsNumber y) :
    (fields x).compare (fields y) = some (compare (place x) (place y)) := by
  have hend : ∀ {x s}, fields x = .infinity s → place x = endOf s := fun h => by rw [place, h, placeOf]
  rcases hx.cases with ⟨s, hs⟩ | ⟨v, hv⟩ <;> rcases hy.cases with ⟨s', hs'⟩ | ⟨w, hw⟩
  · rw [hend hs, hend hs', hs, hs', compare_end_end]
    rfl
  · rw [hend hs, place_of_value hw, hs, compare_infinity_value hw]
  · rw [place_of_value hv, hend hs', hs', compare_value_infinity hv]
  · rw [compare_fields hv hw, place_of_value hv, place_of_value hw, compare_coe_coe]

theorem le_iff_compare_fields : x ≤ y ↔ ((fields x).compare (fields y)).any Ordering.isLE = true := by
  change decide (x.toModel ≤ y.toModel) = true ↔ _
  rw [decide_eq_true_iff]
  rfl

section Places

variable (hx : IsNumber x) (hy : IsNumber y)

include hx hy

theorem lt_iff_place : x < y ↔ place x < place y := by
  rw [lt_iff_compare_fields, compare_fields_place hx hy, Option.some_inj, compare_lt_iff_lt]

theorem le_iff_place : x ≤ y ↔ place x ≤ place y := by
  rw [le_iff_compare_fields, compare_fields_place hx hy]
  change (compare (place x) (place y)).isLE = true ↔ _
  exact Ordering.isLE_iff_ne_gt.trans compare_le_iff_le

theorem beq_iff_place : (x == y) = true ↔ place x = place y := by
  rw [beq_iff_compare_fields, compare_fields_place hx hy, Option.some_inj, compare_eq_iff_eq]

end Places

/-! ### A linear order -/

theorem isNumber_of_le (h : x ≤ y) : IsNumber x ∧ IsNumber y := by
  rw [le_iff_compare_fields] at h
  constructor
  · intro hx
    rw [hx] at h
    cases h
  · intro hy
    rw [hy] at h
    cases hx : fields x <;> rw [hx] at h <;> cases h

theorem le_refl_of_isNumber (h : IsNumber x) : x ≤ x :=
  (le_iff_place h h).mpr le_rfl

theorem le_trans_of_isNumber (hxy : x ≤ y) (hyz : y ≤ z) : x ≤ z := by
  obtain ⟨hx, hy⟩ := isNumber_of_le hxy
  obtain ⟨_, hz⟩ := isNumber_of_le hyz
  rw [le_iff_place hx hy] at hxy
  rw [le_iff_place hy hz] at hyz
  exact (le_iff_place hx hz).mpr (hxy.trans hyz)

theorem beq_of_le_of_le (hxy : x ≤ y) (hyx : y ≤ x) : (x == y) = true := by
  obtain ⟨hx, hy⟩ := isNumber_of_le hxy
  rw [le_iff_place hx hy] at hxy
  rw [le_iff_place hy hx] at hyx
  exact (beq_iff_place hx hy).mpr (le_antisymm hxy hyx)

theorem le_of_beq (h : (x == y) = true) : x ≤ y := by
  rw [le_iff_compare_fields, beq_iff_compare_fields.mp h]
  rfl

/-! ### The order of two numbers -/

theorem le_of_lt (h : x < y) : x ≤ y := by
  rw [le_iff_compare_fields, lt_iff_compare_fields.mp h]
  rfl

theorem compare_eq_of_places (hx : IsNumber x) (hy : IsNumber y) :
    compare? x y = some (compare (place x) (place y)) := by
  have hlt := lt_iff_place hx hy
  have heq := beq_iff_place hx hy
  have hgt := lt_iff_place hy hx
  unfold compare?
  rcases lt_trichotomy (place x) (place y) with h | h | h
  · rw [if_pos (hlt.mpr h), compare_lt_iff_lt.mpr h]
  · rw [if_neg (fun hx => (hlt.mp hx).ne h), if_pos (heq.mpr h), compare_eq_iff_eq.mpr h]
  · rw [if_neg (fun hx => (hlt.mp hx).asymm h), if_neg (fun hx => h.ne' (heq.mp hx)), if_pos (hgt.mpr h),
      compare_gt_iff_gt.mpr h]

theorem compare_eq_none (h : ¬(IsNumber x ∧ IsNumber y)) : compare? x y = none := by
  rw [compare?, if_neg fun hlt => h (isNumber_of_le (le_of_lt hlt)), if_neg fun heq => h (isNumber_of_le (le_of_beq heq)),
    if_neg fun hgt => h (isNumber_of_le (le_of_lt hgt)).symm]

theorem compare_eq_of_values {v w : ℚ} (hx : value? (fields x) = some v) (hy : value? (fields y) = some w) :
    compare? x y = some (compare v w) := by
  have hnumber : ∀ {x : Float} {v : ℚ}, value? (fields x) = some v → IsNumber x := by
    intro x v hx hnan
    rw [hnan] at hx
    cases hx
  rw [compare_eq_of_places (hnumber hx) (hnumber hy), place_of_value hx, place_of_value hy, compare_coe_coe]

theorem compare_swap (x y : Float) : compare? y x = (compare? x y).map Ordering.swap := by
  by_cases h : IsNumber x ∧ IsNumber y
  · rw [compare_eq_of_places h.1 h.2, compare_eq_of_places h.2 h.1, Std.OrientedOrd.eq_swap]
    rfl
  · rw [compare_eq_none h, compare_eq_none (h ∘ And.symm)]
    rfl

/-! ### The smaller and the larger of two numbers -/

section Extremes

variable (hx : IsNumber x) (hy : IsNumber y)

include hx hy

theorem place_least : place (least x y) = min (place x) (place y) := by
  unfold least
  rw [isNaN_eq_false_iff.mpr hx, if_neg Bool.false_ne_true]
  split
  case isTrue h => exact (min_eq_right ((lt_iff_place hy hx).mp h).le).symm
  case isFalse h => exact (min_eq_left (not_lt.mp (h ∘ (lt_iff_place hy hx).mpr))).symm

theorem place_greatest : place (greatest x y) = max (place x) (place y) := by
  unfold greatest
  rw [isNaN_eq_false_iff.mpr hx, if_neg Bool.false_ne_true]
  split
  case isTrue h => exact (max_eq_right ((lt_iff_place hx hy).mp h).le).symm
  case isFalse h => exact (max_eq_left (not_lt.mp (h ∘ (lt_iff_place hx hy).mpr))).symm

theorem least_le_left : least x y ≤ x := by
  rw [le_iff_place (hx.least hy) hx, place_least hx hy]
  exact min_le_left _ _

theorem least_le_right : least x y ≤ y := by
  rw [le_iff_place (hx.least hy) hy, place_least hx hy]
  exact min_le_right _ _

theorem le_greatest_left : x ≤ greatest x y := by
  rw [le_iff_place hx (hx.greatest hy), place_greatest hx hy]
  exact le_max_left _ _

theorem le_greatest_right : y ≤ greatest x y := by
  rw [le_iff_place hy (hx.greatest hy), place_greatest hx hy]
  exact le_max_right _ _

end Extremes

section Equal

variable {x' y' : Float} (hx : (x == x') = true) (hy : (y == y') = true)

include hx hy

theorem beq_least : (least x y == least x' y') = true := by
  obtain ⟨hnx, hnx'⟩ := isNumber_of_le (le_of_beq hx)
  obtain ⟨hny, hny'⟩ := isNumber_of_le (le_of_beq hy)
  rw [beq_iff_place hnx hnx'] at hx
  rw [beq_iff_place hny hny'] at hy
  rw [beq_iff_place (hnx.least hny) (hnx'.least hny'), place_least hnx hny, place_least hnx' hny', hx, hy]

theorem beq_greatest : (greatest x y == greatest x' y') = true := by
  obtain ⟨hnx, hnx'⟩ := isNumber_of_le (le_of_beq hx)
  obtain ⟨hny, hny'⟩ := isNumber_of_le (le_of_beq hy)
  rw [beq_iff_place hnx hnx'] at hx
  rw [beq_iff_place hny hny'] at hy
  rw [beq_iff_place (hnx.greatest hny) (hnx'.greatest hny'), place_greatest hnx hny, place_greatest hnx' hny', hx, hy]

end Equal

end GeoFilter.Floating
