import GeoFilter.Proofs.NumberText
import GeoFilter.Proofs.Rounding.Reading
import Mathlib.Data.Rat.Floor

/-!
# The order of numbers

Numbers in double precision have the order of the values that they hold, and what a value rounds to is the number
nearest to it: no other number is nearer, so none lies between the two.
-/

namespace GeoFilter.Floating

open Float.Model (Format UnpackedFloat)
open Float.Model.UnpackedFloat

/-- The value that the fields of a finite number stand for. -/
def value? : UnpackedFloat → Option ℚ
  | .finite .positive m e _ => some (m * 2 ^ e)
  | .finite .negative m e _ => some (-(m * 2 ^ e))
  | .zero _ => some 0
  | .infinity _ => none
  | .notANumber => none

theorem value_positive {m : Nat} {e : Int} {hm : 0 < m} : value? (.finite .positive m e hm) = some ((m : ℚ) * 2 ^ e) :=
  rfl

theorem value_negative {m : Nat} {e : Int} {hm : 0 < m} : value? (.finite .negative m e hm) = some (-((m : ℚ) * 2 ^ e)) :=
  rfl

/-! ### Numbers above and below -/

section Neighbours

variable {m m' : Nat} {e e' : Int} (h : Canonical m e) (h' : Canonical m' e')

include h h'

theorem Canonical.succ_le_of_exponent_lt (hlt : e < e') : (m + 1 : ℚ) * 2 ^ e ≤ m' * 2 ^ e' := by
  have hm : ((m + 1 : Nat) : ℚ) ≤ (2 ^ 53 : Nat) := Nat.cast_le.mpr h.bound
  have hm' : ((2 ^ 52 : Nat) : ℚ) ≤ m' := Nat.cast_le.mpr (h'.normal.resolve_left (by have := h.least; omega))
  push_cast at hm hm'
  calc (m + 1 : ℚ) * 2 ^ e ≤ 2 ^ 53 * 2 ^ e := mul_le_mul_of_nonneg_right hm (by positivity)
    _ = 2 ^ 52 * 2 ^ (e + 1) := by rw [zpow_add_one₀ two_ne_zero]; ring
    _ ≤ 2 ^ 52 * 2 ^ e' := by
      refine mul_le_mul_of_nonneg_left ?_ (by positivity)
      exact (zpow_le_zpow_iff_right₀ (by norm_num)).mpr hlt
    _ ≤ m' * 2 ^ e' := mul_le_mul_of_nonneg_right hm' (by positivity)

theorem Canonical.lt_of_exponent_lt (hlt : e < e') : (m : ℚ) * 2 ^ e < m' * 2 ^ e' :=
  lt_of_lt_of_le (mul_lt_mul_of_pos_right (lt_add_one _) (by positivity)) (h.succ_le_of_exponent_lt h' hlt)

/-- Numbers have the order of their exponents, and with the same exponent that of their mantissas. -/
theorem Canonical.compare_eq :
    (compare e e').then (compare m m') = compare ((m : ℚ) * 2 ^ e) (m' * 2 ^ e') := by
  rcases lt_trichotomy e e' with hlt | rfl | hlt
  · rw [compare_lt_iff_lt.mpr hlt, compare_lt_iff_lt.mpr (h.lt_of_exponent_lt h' hlt)]
    rfl
  · have hpos : (0 : ℚ) < 2 ^ e := by positivity
    rw [compare_eq_iff_eq.mpr rfl]
    change compare m m' = _
    rcases lt_trichotomy m m' with hlt | rfl | hlt
    · rw [compare_lt_iff_lt.mpr hlt, compare_lt_iff_lt.mpr (mul_lt_mul_of_pos_right (Nat.cast_lt.mpr hlt) hpos)]
    · rw [compare_eq_iff_eq.mpr rfl, compare_eq_iff_eq.mpr rfl]
    · rw [compare_gt_iff_gt.mpr hlt, compare_gt_iff_gt.mpr (mul_lt_mul_of_pos_right (Nat.cast_lt.mpr hlt) hpos)]
  · rw [compare_gt_iff_gt.mpr hlt, compare_gt_iff_gt.mpr (h'.lt_of_exponent_lt h hlt)]
    rfl

theorem Canonical.succ_le (hlt : (m : ℚ) * 2 ^ e < m' * 2 ^ e') : (m + 1 : ℚ) * 2 ^ e ≤ m' * 2 ^ e' := by
  rcases lt_trichotomy e e' with he | rfl | he
  · exact h.succ_le_of_exponent_lt h' he
  · have hm : m < m' := Nat.cast_lt.mp (lt_of_mul_lt_mul_right hlt (by positivity))
    refine mul_le_mul_of_nonneg_right ?_ (by positivity)
    exact_mod_cast hm
  · exact absurd (h'.lt_of_exponent_lt h he) hlt.asymm

/-- The number before is twice as far away as the values that still round to a number. -/
theorem Canonical.le_pred (hlt : (m' : ℚ) * 2 ^ e' < m * 2 ^ e) : (m' : ℚ) * 2 ^ e' ≤ (m - 2 * gapBelow m e) * 2 ^ e := by
  have hpos : (0 : ℚ) < 2 ^ e := by positivity
  rcases lt_trichotomy e' e with he | rfl | he
  · have hbound : ((m' + 1 : Nat) : ℚ) ≤ (2 ^ 53 : Nat) := Nat.cast_le.mpr h'.bound
    have hexponent : (2 : ℚ) ^ e' ≤ 2 ^ e / 2 := by
      rw [le_div_iff₀ two_pos, ← zpow_add_one₀ two_ne_zero]
      exact (zpow_le_zpow_iff_right₀ (by norm_num)).mpr he
    push_cast at hbound
    have hbelow : (m' : ℚ) * 2 ^ e' ≤ (2 ^ 53 - 1) * (2 ^ e / 2) :=
      mul_le_mul (by linarith) hexponent (by positivity) (by norm_num)
    have hnormal : 2 ^ 52 ≤ m := h.normal.resolve_left (by have := h'.least; omega)
    refine hbelow.trans ?_
    unfold gapBelow
    split
    case isTrue hnarrow =>
      rw [hnarrow.1]
      push_cast
      linarith
    case isFalse hwide =>
      have hm : ((2 ^ 52 + 1 : Nat) : ℚ) ≤ m := by
        have hne : m ≠ 2 ^ 52 := fun heq => hwide ⟨heq, by have := h'.least; omega⟩
        exact Nat.cast_le.mpr (by omega)
      push_cast at hm
      have hwhole : (2 ^ 52 : ℚ) * 2 ^ e ≤ (m - 1) * 2 ^ e := mul_le_mul_of_nonneg_right (by linarith) hpos.le
      linarith
  · have hm : m' < m := Nat.cast_lt.mp (lt_of_mul_lt_mul_right hlt hpos.le)
    have hm' : ((m' + 1 : Nat) : ℚ) ≤ m := Nat.cast_le.mpr hm
    have hgap := gapBelow_le m e'
    push_cast at hm'
    exact mul_le_mul_of_nonneg_right (by linarith) hpos.le
  · exact absurd (h.lt_of_exponent_lt h' he) hlt.asymm

end Neighbours

/-! ### Comparison -/

section Comparison

variable {x y : Float} {v w : ℚ}

theorem value_neg (h : value? (fields x) = some v) : value? (fields (-x)) = some (-v) := by
  cases hx : fields x with
  | finite sign m e hm =>
    rw [hx] at h
    rw [fields_neg_finite hx]
    cases sign with
    | negative =>
      cases h
      exact congrArg some (neg_neg _).symm
    | positive =>
      cases h
      rfl
  | zero sign =>
    rw [hx] at h
    rw [fields_neg_zero hx]
    cases h
    exact congrArg some neg_zero.symm
  | infinity | notANumber =>
    rw [hx] at h
    cases h

theorem compare_neg_neg (v w : ℚ) : compare (-v) (-w) = (compare v w).swap := by
  rcases lt_trichotomy v w with hlt | rfl | hlt
  · rw [compare_lt_iff_lt.mpr hlt, compare_gt_iff_gt.mpr (neg_lt_neg hlt)]
    rfl
  · rw [compare_eq_iff_eq.mpr rfl, compare_eq_iff_eq.mpr rfl]
    rfl
  · rw [compare_gt_iff_gt.mpr hlt, compare_lt_iff_lt.mpr (neg_lt_neg hlt)]
    rfl

theorem Canonical.value_pos {m : Nat} {e : Int} (h : Canonical m e) : (0 : ℚ) < m * 2 ^ e :=
  mul_pos (Nat.cast_pos.mpr h.pos) (by positivity)

theorem compare_fields (hx : value? (fields x) = some v) (hy : value? (fields y) = some w) :
    (fields x).compare (fields y) = some (compare v w) := by
  have hlt : ∀ {v w : ℚ}, v < w → some Ordering.lt = some (compare v w) :=
    fun h => congrArg some (compare_lt_iff_lt.mpr h).symm
  have hgt : ∀ {v w : ℚ}, w < v → some Ordering.gt = some (compare v w) :=
    fun h => congrArg some (compare_gt_iff_gt.mpr h).symm
  have hcx : ∀ {sign m e hm}, fields x = .finite sign m e hm → Canonical m e := canonical_of_fields
  have hcy : ∀ {sign m e hm}, fields y = .finite sign m e hm → Canonical m e := canonical_of_fields
  generalize fields x = f at hx hcx ⊢
  generalize fields y = g at hy hcy ⊢
  cases f with
  | infinity | notANumber => cases hx
  | zero s =>
    cases hx
    cases g with
    | infinity | notANumber => cases hy
    | zero s' =>
      cases hy
      exact congrArg some (compare_eq_iff_eq.mpr rfl).symm
    | finite s' m' e' hm' =>
      have hpos := (hcy rfl).value_pos
      cases s' <;> cases hy
      · exact hgt (neg_neg_of_pos hpos)
      · exact hlt hpos
  | finite s m e hm =>
    have hc := hcx rfl
    have hpos := hc.value_pos
    cases g with
    | infinity | notANumber => cases hy
    | zero s' =>
      cases s <;> cases hx <;> cases hy
      · exact hlt (neg_neg_of_pos hpos)
      · exact hgt hpos
    | finite s' m' e' hm' =>
      have hc' := hcy rfl
      have hpos' := hc'.value_pos
      cases s <;> cases s' <;> cases hx <;> cases hy
      · exact congrArg some ((congrArg Ordering.swap (hc.compare_eq hc')).trans (compare_neg_neg _ _).symm)
      · exact hlt ((neg_neg_of_pos hpos).trans hpos')
      · exact hgt ((neg_neg_of_pos hpos').trans hpos)
      · exact congrArg some (hc.compare_eq hc')

theorem lt_iff_compare_fields : x < y ↔ (fields x).compare (fields y) = some .lt := by
  change decide (x.toModel < y.toModel) = true ↔ _
  rw [decide_eq_true_iff]
  exact beq_iff_eq

theorem beq_iff_compare_fields : (x == y) = true ↔ (fields x).compare (fields y) = some .eq := by
  change (fields x).beq (fields y) = true ↔ _
  exact beq_iff_eq

end Comparison

/-! ### The nearest number -/

/-- Whether no number in double precision is nearer to a value than the given one. -/
def IsNearest (x : Float) (v : ℚ) : Prop :=
  ∃ r, value? (fields x) = some r ∧ ∀ y w, value? (fields y) = some w → |v - r| ≤ |v - w|

/-- A natural number that is as near to a value as any other, the even one of two. -/
theorem exists_roundEven {x : ℚ} (hx : 0 ≤ x) :
    ∃ m : Nat, ⌊x⌋₊ ≤ m ∧ m ≤ ⌊x⌋₊ + 1 ∧ (m : ℚ) - 1 / 2 ≤ x ∧ x ≤ m + 1 / 2 ∧
      (m % 2 = 1 → (m : ℚ) - 1 / 2 < x ∧ x < m + 1 / 2) := by
  have hfloor := Nat.floor_le hx
  have hnext := Nat.lt_floor_add_one x
  rcases lt_trichotomy x (⌊x⌋₊ + 1 / 2) with hlt | heq | hgt
  · exact ⟨⌊x⌋₊, by omega, by omega, by linarith, by linarith, fun _ => ⟨by linarith, hlt⟩⟩
  · rcases Nat.mod_two_eq_zero_or_one ⌊x⌋₊ with heven | hodd
    · exact ⟨⌊x⌋₊, by omega, by omega, by linarith, by linarith, fun hodd => by omega⟩
    · exact ⟨⌊x⌋₊ + 1, by omega, by omega, by push_cast; linarith, by push_cast; linarith, fun hodd => by omega⟩
  · exact ⟨⌊x⌋₊ + 1, by omega, by omega, by push_cast; linarith, by push_cast; linarith,
      fun _ => ⟨by push_cast; linarith, by push_cast; linarith⟩⟩

/-- A value in the range of the numbers with all their bits rounds to one of them. -/
theorem exists_roundsTo {v : ℚ} {e : Int} (hleast : -1074 ≤ e) (hgreatest : e < 971) (hlow : 2 ^ 52 * 2 ^ e ≤ v)
    (hhigh : v < 2 ^ 53 * 2 ^ e) : ∃ m e', Canonical m e' ∧ RoundsTo m e' v := by
  have hpos : (0 : ℚ) < 2 ^ e := by positivity
  have hlow' : 2 ^ 52 ≤ v / 2 ^ e := (le_div_iff₀ hpos).mpr hlow
  have hhigh' : v / 2 ^ e < 2 ^ 53 := (div_lt_iff₀ hpos).mpr hhigh
  have hx : 0 ≤ v / 2 ^ e := le_trans (by norm_num) hlow'
  obtain ⟨m, hfloor, hnext, hbelow, habove, hodd⟩ := exists_roundEven hx
  have hm : 2 ^ 52 ≤ m := by
    refine le_trans (Nat.le_floor ?_) hfloor
    exact_mod_cast hlow'
  have hm' : m ≤ 2 ^ 53 := by
    have hlt : ⌊v / 2 ^ e⌋₊ < 2 ^ 53 := (Nat.floor_lt hx).mpr (by exact_mod_cast hhigh')
    omega
  rcases hm'.lt_or_eq with hlt | rfl
  · refine ⟨m, e, ⟨by omega, hlt, hleast, hgreatest.le, .inr hm⟩, ?_, (div_le_iff₀ hpos).mp habove, fun hm => ?_⟩
    · rw [← le_div_iff₀ hpos]
      unfold gapBelow
      split
      case isTrue hnarrow =>
        rw [hnarrow.1]
        push_cast
        linarith
      case isFalse => exact hbelow
    · have hgap : gapBelow m e = 1 / 2 := if_neg fun hnarrow => by omega
      rw [hgap, ← lt_div_iff₀ hpos, ← div_lt_iff₀ hpos]
      exact hodd hm
  · -- the first number of the next binade
    have hgap : gapBelow (2 ^ 52) (e + 1) = 1 / 4 := if_pos ⟨rfl, by omega⟩
    refine ⟨2 ^ 52, e + 1, ⟨by norm_num, by norm_num, by omega, by omega, .inr le_rfl⟩, ?_, ?_, fun hm => by omega⟩
    · rw [hgap, zpow_add_one₀ two_ne_zero, ← mul_assoc, mul_right_comm, ← le_div_iff₀ hpos]
      push_cast at hbelow ⊢
      linarith
    · rw [zpow_add_one₀ two_ne_zero, ← mul_assoc, mul_right_comm, ← div_le_iff₀ hpos]
      push_cast
      linarith

theorem value_cases {y : Float} {w : ℚ} (h : value? (fields y) = some w) :
    w ≤ 0 ∨ ∃ m e, Canonical m e ∧ w = m * 2 ^ e := by
  have hc : ∀ {sign m e hm}, fields y = .finite sign m e hm → Canonical m e := canonical_of_fields
  generalize fields y = f at h hc
  cases f with
  | infinity | notANumber => cases h
  | zero s =>
    cases h
    exact .inl le_rfl
  | finite s m e hm =>
    cases s <;> cases h
    · exact .inl (neg_nonpos_of_nonneg (hc rfl).value_pos.le)
    · exact .inr ⟨m, e, hc rfl, rfl⟩

theorem Canonical.apart {m : Nat} {e : Int} (hc : Canonical m e) {y : Float} {w : ℚ}
    (h : value? (fields y) = some w) :
    w ≤ ((m : ℚ) - 2 * gapBelow m e) * 2 ^ e ∨ w = m * 2 ^ e ∨ ((m : ℚ) + 1) * 2 ^ e ≤ w := by
  rcases value_cases h with hw | ⟨m', e', hc', rfl⟩
  · refine .inl (hw.trans (mul_nonneg ?_ (by positivity)))
    have hm : ((1 : Nat) : ℚ) ≤ m := Nat.cast_le.mpr hc.pos
    have hgap := gapBelow_le m e
    push_cast at hm
    linarith
  · rcases lt_trichotomy ((m' : ℚ) * 2 ^ e') (m * 2 ^ e) with hlt | heq | hgt
    · exact .inl (hc.le_pred hc' hlt)
    · exact .inr (.inl heq)
    · exact .inr (.inr (hc.succ_le hc' hgt))

/-- Every other number is at least as far away as the one that a value rounds to. -/
theorem RoundsTo.isNearest {m : Nat} {e : Int} {v : ℚ} (hv : RoundsTo m e v) (hc : Canonical m e) {x : Float}
    (hx : value? (fields x) = some ((m : ℚ) * 2 ^ e)) : IsNearest x v := by
  refine ⟨_, hx, fun y w hy => ?_⟩
  obtain ⟨hlow, hhigh, _⟩ := hv
  have hgap : gapBelow m e * 2 ^ e ≤ 1 / 2 * 2 ^ e := mul_le_mul_of_nonneg_right (gapBelow_le m e) (by positivity)
  have hgap' : 0 ≤ gapBelow m e * 2 ^ e := mul_nonneg (gapBelow_pos m e).le (by positivity)
  rcases hc.apart hy with hw | rfl | hw
  · rw [abs_le]
    have hright : v - w ≤ |v - w| := le_abs_self _
    constructor <;> linarith
  · exact le_rfl
  · rw [abs_le]
    have hleft : w - v ≤ |v - w| := by
      rw [abs_sub_comm]
      exact le_abs_self _
    constructor <;> linarith

theorem IsNearest.neg {x : Float} {v : ℚ} (h : IsNearest x v) : IsNearest (-x) (-v) := by
  obtain ⟨r, hr, hnearest⟩ := h
  refine ⟨-r, value_neg hr, fun y w hy => ?_⟩
  have hle := hnearest (-y) (-w) (value_neg hy)
  have hflip : |-v - -r| = |v - r| := by rw [neg_sub_neg, abs_sub_comm]
  have hflip' : |-v - w| = |v - -w| := by rw [← abs_neg, neg_sub, sub_neg_eq_add, sub_neg_eq_add, add_comm]
  rwa [hflip, hflip']

theorem IsNearest.compare_eq {x y : Float} {v r w : ℚ} (h : IsNearest x v) (hx : value? (fields x) = some r)
    (hy : value? (fields y) = some w) (hne : r ≠ w) : compare r w = compare v w := by
  obtain ⟨r', hr, hnearest⟩ := h
  obtain rfl : r' = r := Option.some.inj (hr.symm.trans hx)
  have hle := hnearest y w hy
  rcases lt_or_gt_of_ne hne with hlt | hgt
  · have hv : v < w := by
      by_contra hwv
      have hwv : w ≤ v := not_lt.mp hwv
      rw [abs_of_nonneg (by linarith), abs_of_nonneg (by linarith)] at hle
      linarith
    rw [compare_lt_iff_lt.mpr hlt, compare_lt_iff_lt.mpr hv]
  · have hv : w < v := by
      by_contra hvw
      have hvw : v ≤ w := not_lt.mp hvw
      rw [abs_of_nonpos (by linarith), abs_of_nonpos (by linarith)] at hle
      linarith
    rw [compare_gt_iff_gt.mpr hgt, compare_gt_iff_gt.mpr hv]

/-! ### Integers -/

theorem isNearest_toFloat {k : Nat} (hpos : 0 < k) (hbound : k < 2 ^ 64) :
    IsNearest (⟨k, 0⟩ : Decimal).toFloat k := by
  have hlog : k.log2 < 64 := (Nat.log2_lt hpos.ne').mpr hbound
  have hlow : ((2 ^ k.log2 : Nat) : ℚ) ≤ k := Nat.cast_le.mpr (Nat.log2_self_le hpos.ne')
  have hhigh : (k : ℚ) < (2 ^ (k.log2 + 1) : Nat) := Nat.cast_lt.mpr Nat.lt_log2_self
  push_cast at hlow hhigh
  have hpow : ∀ n : Nat, (2 : ℚ) ^ n * 2 ^ ((k.log2 : Int) - 52) = 2 ^ (k.log2 + n - 52 : Int) := by
    intro n
    rw [← zpow_natCast, ← zpow_add₀ two_ne_zero]
    congr 1
    omega
  obtain ⟨m, e, hc, hv⟩ : ∃ m e, Canonical m e ∧ RoundsTo m e k := by
    refine exists_roundsTo (e := k.log2 - 52) (by omega) (by omega) ?_ ?_
    · rw [hpow, Nat.cast_ofNat, add_sub_cancel_right, zpow_natCast]
      exact hlow
    · rw [hpow]
      convert hhigh using 1
      rw [← zpow_natCast]
      congr 1
      omega
  have hvalue : (⟨k, 0⟩ : Decimal).value = k := by
    rw [Decimal.value, zpow_zero, mul_one]
  refine hv.isNearest hc ?_
  rw [Decimal.fields_toFloat hc (hvalue.symm ▸ hv)]
  rfl

theorem isNearest_ofInt {n : Int} (hbound : n.natAbs < 2 ^ 64) : IsNearest (ofInt n) n := by
  have hzero : IsNearest (ofInt 0) 0 :=
    ⟨0, rfl, fun y w _ => (abs_nonneg (0 - w)).trans' (by rw [sub_zero, abs_zero])⟩
  rcases n.eq_nat_or_neg with ⟨k, rfl | rfl⟩ <;> rcases Nat.eq_zero_or_pos k with rfl | hpos
  · exact_mod_cast hzero
  · rw [NumberText.toFloat_ofNat]
    exact isNearest_toFloat hpos hbound
  · exact_mod_cast hzero
  · rw [Int.natAbs_neg] at hbound
    rw [NumberText.toFloat_negOfNat hpos, Int.cast_neg]
    exact (isNearest_toFloat hpos hbound).neg

theorem exists_value_eq {n : Int} (hbound : n.natAbs ≤ 2 ^ 53) : ∃ y, value? (fields y) = some (n : ℚ) := by
  have hnat : ∀ k : Nat, k ≤ 2 ^ 53 → ∃ y, value? (fields y) = some (k : ℚ) := by
    intro k hk
    rcases Nat.eq_zero_or_pos k with rfl | hpos
    · exact ⟨ofInt 0, rfl⟩
    rcases hk.lt_or_eq with hlt | rfl
    · obtain ⟨m, e, hm, hfields, _, hvalue⟩ := fields_toFloat_of_lt hpos hlt
      exact ⟨_, by rw [hfields, ← hvalue]; rfl⟩
    · have hfields : fields 9007199254740992.0 = .finite .positive (2 ^ 52) 1 (by decide) := rfl
      refine ⟨9007199254740992.0, ?_⟩
      rw [hfields, value_positive]
      norm_num
  rcases n.eq_nat_or_neg with ⟨k, rfl | rfl⟩
  · exact hnat k hbound
  · rw [Int.natAbs_neg] at hbound
    obtain ⟨y, hy⟩ := hnat k hbound
    exact ⟨-y, by rw [value_neg hy, Int.cast_neg]; rfl⟩

/-! ### Single precision -/

theorem bounds_of_unpack {b : BitVec Format.binary32.numBits} {sign : UnpackedFloat.Sign} {m : Nat} {e : Int} {hm : 0 < m}
    (h : unpack Format.binary32 b = .finite sign m e hm) : m < 2 ^ 24 ∧ -149 ≤ e ∧ e ≤ 105 := by
  have hexponent : (unpackExponent b).toNat < 2 ^ 8 := (unpackExponent b).isLt
  have hmantissa : (unpackMantissa b).toNat < 2 ^ 23 := (unpackMantissa b).isLt
  rcases bits_of_unpack h with ⟨rfl, rfl⟩ | ⟨rfl, hzeros, _, he⟩
  · exact ⟨by omega, by decide, by decide⟩
  · have hzeros : (unpackExponent b).toNat ≠ 0 := fun heq => hzeros (BitVec.eq_of_toNat_eq heq)
    change e = ((unpackExponent b).toNat : Int) - (127 + 23) at he
    exact ⟨(1#1 ++ unpackMantissa b).isLt, by omega, by omega⟩

theorem fields_ofBits {f : UnpackedFloat}
    (hf : unpack Format.binary64 (pack Format.binary64 f) = f) :
    fields (Float.ofBits (UInt64.ofBitVec (pack Format.binary64 f))) = f := by
  change unpack Format.binary64 (pack Format.binary64 (unpack Format.binary64 (pack Format.binary64 f))) = f
  rw [hf, hf]

theorem value_widen {x : Float32} {v : ℚ} (h : value? (fields32 x) = some v) :
    value? (fields (widen x)) = some v := by
  unfold widen
  cases hx : fields32 x with
  | infinity | notANumber =>
    rw [hx] at h
    cases h
  | zero s =>
    have hzero : fields (Float.ofBits (UInt64.ofBitVec (pack Format.binary64 (.zero s)))) = .zero s :=
      fields_ofBits (unpack_packedZero s)
    dsimp only
    rw [hzero, ← hx]
    exact h
  | finite s m e hm =>
    obtain ⟨hbound, hleast, hgreatest⟩ := bounds_of_unpack hx
    obtain ⟨m', e', hc, hround, _, hvalue⟩ :=
      round_of_lt (e := e) hm (hbound.trans (by decide)) (by omega) (by omega) s
    rw [hx] at h
    dsimp only
    rw [hround, fields_ofBits (hc.unpack_pack s), ← h]
    cases s with
    | positive => rw [value_positive, value_positive, hvalue]
    | negative => rw [value_negative, value_negative, hvalue]

end GeoFilter.Floating
