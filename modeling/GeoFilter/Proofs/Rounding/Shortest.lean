import GeoFilter.Decimal.Shortest
import GeoFilter.Proofs.Rounding.Reading

/-!
# The shortest decimal belongs to its number

The search for a decimal always ends with one in the interval of the number: the grid of the seventeenth digit is finer
than every interval is wide.
-/

namespace GeoFilter.Decimal

open Floating

/-! ### Grids -/

namespace Neighbourhood

variable {nb : Neighbourhood}

def ratio (nb : Neighbourhood) (a : Nat) : ℚ := a / nb.denominator

theorem ten_zpow (k : Int) : (10 : ℚ) ^ k = 10 ^ k.toNat / 10 ^ (-k).toNat := by
  rw [← zpow_natCast, ← zpow_natCast, ← zpow_sub₀ (by norm_num)]
  congr 1
  omega

theorem gridFactors_eq (k : Int) :
    nb.gridFactors k = (nb.denominator * 10 ^ k.toNat, 10 ^ (-k).toNat) := rfl

theorem ratio_le_iff (hden : 0 < nb.denominator) (k : Int) (a c : Nat) :
    nb.ratio a ≤ c * 10 ^ k ↔ a * (nb.gridFactors k).2 ≤ c * (nb.gridFactors k).1 := by
  have hden' : (0 : ℚ) < nb.denominator := by exact_mod_cast hden
  have hpow : (0 : ℚ) < 10 ^ (-k).toNat := by positivity
  rw [ratio, ten_zpow, mul_div_assoc', div_le_div_iff₀ hden' hpow, ← Nat.cast_le (α := ℚ)]
  rw [gridFactors_eq]
  push_cast
  rw [mul_assoc, mul_comm (nb.denominator : ℚ)]

theorem le_ratio_iff (hden : 0 < nb.denominator) (k : Int) (a c : Nat) :
    c * 10 ^ k ≤ nb.ratio a ↔ c * (nb.gridFactors k).1 ≤ a * (nb.gridFactors k).2 := by
  have hden' : (0 : ℚ) < nb.denominator := by exact_mod_cast hden
  have hpow : (0 : ℚ) < 10 ^ (-k).toNat := by positivity
  rw [ratio, ten_zpow, mul_div_assoc', div_le_div_iff₀ hpow hden', ← Nat.cast_le (α := ℚ)]
  rw [gridFactors_eq]
  push_cast
  rw [mul_assoc, mul_comm (nb.denominator : ℚ)]

/-- A multiple of a power of ten is contained if it lies between the ends, which belong to a closed neighbourhood. -/
theorem contains_iff (hden : 0 < nb.denominator) (k : Int) (c : Nat) :
    nb.contains k c = true ↔ nb.ratio nb.low ≤ c * 10 ^ k ∧ c * 10 ^ k ≤ nb.ratio nb.high ∧
      (nb.closed = false → nb.ratio nb.low < c * 10 ^ k ∧ c * 10 ^ k < nb.ratio nb.high) := by
  rw [← not_le (b := nb.ratio nb.low), ← not_le (a := nb.ratio nb.high), ratio_le_iff hden, le_ratio_iff hden,
    le_ratio_iff hden, ratio_le_iff hden]
  unfold contains
  cases nb.closed with
  | true => simp
  | false =>
    simp
    omega

theorem floorOn_le (hden : 0 < nb.denominator) (k : Int) :
    nb.floorOn k * 10 ^ k ≤ nb.ratio nb.value ∧ nb.ratio nb.value < (nb.floorOn k + 1 : Nat) * 10 ^ k := by
  have hpos : 0 < (nb.gridFactors k).1 := Nat.mul_pos hden (Nat.pow_pos (by decide))
  rw [le_ratio_iff hden, ← not_le, le_ratio_iff hden, Nat.not_le]
  exact ⟨Nat.div_mul_le_self _ _, Nat.lt_mul_of_div_lt (Nat.lt_succ_self _) hpos⟩

/-! ### The search -/

theorem contains_of_pick {k : Int} {c : Nat} (h : nb.pick? k = some c) : nb.contains k c = true := by
  unfold pick? at h
  dsimp only at h
  split at h
  case h_1 hfloor hnext =>
    cases h
    split
    · exact hfloor
    · exact hnext
  case h_2 hfloor _ =>
    cases h
    exact hfloor
  case h_3 _ hnext =>
    cases h
    exact hnext
  case h_4 => cases h

/-- A grid of which no point is picked is as wide as the neighbourhood at least. -/
theorem width_le_of_pick_eq_none (hden : 0 < nb.denominator) (hlow : nb.ratio nb.low < nb.ratio nb.value)
    (hhigh : nb.ratio nb.value < nb.ratio nb.high) {k : Int} (h : nb.pick? k = none) :
    nb.ratio nb.high - nb.ratio nb.low ≤ 10 ^ k := by
  obtain ⟨hfloor, hnext⟩ := floorOn_le hden k
  have hfree : nb.contains k (nb.floorOn k) ≠ true ∧ nb.contains k (nb.floorOn k + 1) ≠ true := by
    unfold pick? at h
    dsimp only at h
    split at h
    case h_4 hfloor hnext => exact ⟨by rw [hfloor]; decide, by rw [hnext]; decide⟩
    all_goals cases h
  have hbelow : nb.floorOn k * 10 ^ k ≤ nb.ratio nb.low := by
    by_contra hlt
    refine hfree.1 ((contains_iff hden k _).mpr ⟨?_, ?_, fun _ => ⟨?_, ?_⟩⟩) <;> linarith
  have habove : nb.ratio nb.high ≤ (nb.floorOn k + 1 : Nat) * 10 ^ k := by
    by_contra hlt
    refine hfree.2 ((contains_iff hden k _).mpr ⟨?_, ?_, fun _ => ⟨?_, ?_⟩⟩) <;> linarith
  push_cast at habove
  linarith

theorem contains_search {fuel : Nat} {k : Int} (h : ∃ j : Nat, j < fuel ∧ nb.pick? (k - j) ≠ none) :
    nb.contains (nb.search fuel k).exponent (nb.search fuel k).digits = true := by
  induction fuel generalizing k with
  | zero =>
    obtain ⟨j, hj, _⟩ := h
    exact absurd hj (Nat.not_lt_zero j)
  | succ fuel ih =>
    unfold search
    split
    case h_1 c hpick => exact contains_of_pick hpick
    case h_2 hnone =>
      refine ih ?_
      obtain ⟨j, hj, hpick⟩ := h
      cases j with
      | zero =>
        rw [Nat.cast_zero, Int.sub_zero] at hpick
        exact absurd hnone hpick
      | succ j =>
        refine ⟨j, by omega, ?_⟩
        have hsub : k - (j + 1 : Nat) = k - 1 - j := by omega
        rwa [hsub] at hpick

/-! ### The order -/

theorem le_decadesBelow {fuel num den : Nat} (hfuel : den ≤ num * 10 ^ fuel) :
    den ≤ num * 10 ^ decadesBelow fuel num den := by
  induction fuel generalizing num with
  | zero => exact hfuel
  | succ fuel ih =>
    unfold decadesBelow
    split
    case isTrue hle => rwa [pow_zero, Nat.mul_one]
    case isFalse =>
      have hmore : den ≤ num * 10 * 10 ^ fuel := by rwa [Nat.mul_assoc, ← Nat.pow_succ']
      have hdecades := ih hmore
      rwa [Nat.mul_assoc, ← Nat.pow_succ'] at hdecades

theorem order_le (hden : 0 < nb.denominator) (hvalue : 0 < nb.value) : (10 : ℚ) ^ nb.order ≤ nb.ratio nb.value := by
  have hden' : (0 : ℚ) < nb.denominator := by exact_mod_cast hden
  unfold order
  rw [ratio, le_div_iff₀ hden']
  split
  case isTrue hle =>
    set q := nb.value / nb.denominator with hq
    have hpos : 0 < q := Nat.div_pos hle hden
    have hlength := Nat.length_toDigits_pos (b := 10) (n := q)
    have hpow : 10 ^ ((Nat.toDigits 10 q).length - 1) ≤ q := by
      by_contra hlt
      rcases Nat.eq_zero_or_pos ((Nat.toDigits 10 q).length - 1) with hone | hmore
      · rw [hone] at hlt
        omega
      · have := (Nat.length_toDigits_le_iff (by decide) hmore).mpr (Nat.lt_of_not_le hlt)
        omega
    have hexponent : ((Nat.toDigits 10 q).length : Int) - 1 = ((Nat.toDigits 10 q).length - 1 : Nat) := by omega
    rw [hexponent, zpow_natCast]
    exact_mod_cast (Nat.mul_le_mul_right _ hpow).trans (Nat.div_mul_le_self _ _)
  case isFalse =>
    have hfuel : nb.denominator ≤ nb.value * 10 ^ (nb.denominator.log2 + 1) :=
      calc nb.denominator ≤ 2 ^ (nb.denominator.log2 + 1) := Nat.lt_log2_self.le
        _ ≤ 10 ^ (nb.denominator.log2 + 1) := Nat.pow_le_pow_left (by decide) _
        _ ≤ nb.value * 10 ^ (nb.denominator.log2 + 1) := Nat.le_mul_of_pos_left _ hvalue
    have hdecades : (nb.denominator : ℚ) ≤
        nb.value * 10 ^ decadesBelow (nb.denominator.log2 + 1) nb.value nb.denominator := by
      exact_mod_cast le_decadesBelow hfuel
    rw [zpow_neg, zpow_natCast, inv_mul_le_iff₀ (by positivity), mul_comm]
    exact hdecades

end Neighbourhood

/-! ### Binary numbers -/

section Binary

variable {m : Nat} {e : Int} (hc : Canonical m e)

def isNarrow (m : Nat) (e : Int) : Bool := m = 2 ^ 52 && -1074 < e

theorem gapBelow_eq (m : Nat) (e : Int) : gapBelow m e = if isNarrow m e then 1 / 4 else 1 / 2 := by
  simp [gapBelow, isNarrow]

theorem denominator_pos (m : Nat) (e : Int) : 0 < (Neighbourhood.ofBinary m e (isNarrow m e)).denominator :=
  Nat.pow_pos (by decide)

theorem ratio_ofBinary (m : Nat) (e : Int) (a : Nat) :
    (Neighbourhood.ofBinary m e (isNarrow m e)).ratio (a * Nat.pow 2 (e - 2).toNat) = a / 4 * 2 ^ e := by
  have hpow : (2 : ℚ) ^ e = 4 * (2 ^ (e - 2).toNat / 2 ^ (2 - e).toNat) := by
    have hsplit : e = 2 + ((e - 2).toNat - (2 - e).toNat : Int) := by omega
    nth_rewrite 1 [hsplit]
    rw [zpow_add₀ two_ne_zero, zpow_sub₀ two_ne_zero, zpow_natCast, zpow_natCast]
    norm_num
  have hden : (Neighbourhood.ofBinary m e (isNarrow m e)).denominator = 2 ^ (2 - e).toNat := rfl
  have hup : Nat.pow 2 (e - 2).toNat = 2 ^ (e - 2).toNat := rfl
  rw [Neighbourhood.ratio, hden, hup, hpow]
  push_cast
  field_simp

theorem ratio_value (m : Nat) (e : Int) :
    (Neighbourhood.ofBinary m e (isNarrow m e)).ratio (Neighbourhood.ofBinary m e (isNarrow m e)).value =
      m * 2 ^ e := by
  refine (ratio_ofBinary m e (4 * m)).trans ?_
  push_cast
  ring

theorem ratio_high (m : Nat) (e : Int) :
    (Neighbourhood.ofBinary m e (isNarrow m e)).ratio (Neighbourhood.ofBinary m e (isNarrow m e)).high =
      (m + 1 / 2) * 2 ^ e := by
  refine (ratio_ofBinary m e (4 * m + 2)).trans ?_
  push_cast
  ring

include hc

theorem ratio_low :
    (Neighbourhood.ofBinary m e (isNarrow m e)).ratio (Neighbourhood.ofBinary m e (isNarrow m e)).low =
      (m - gapBelow m e) * 2 ^ e := by
  have hpos := hc.pos
  refine (ratio_ofBinary m e (4 * m - if isNarrow m e then 1 else 2)).trans ?_
  rw [gapBelow_eq]
  split
  · rw [Nat.cast_sub (by omega)]
    push_cast
    ring
  · rw [Nat.cast_sub (by omega)]
    push_cast
    ring

theorem roundsTo_of_contains {k : Int} {c : Nat}
    (h : (Neighbourhood.ofBinary m e (isNarrow m e)).contains k c = true) : RoundsTo m e (c * 10 ^ k) := by
  rw [Neighbourhood.contains_iff (denominator_pos m e), ratio_low hc, ratio_high] at h
  refine ⟨h.1, h.2.1, fun hodd => h.2.2 ?_⟩
  exact decide_eq_false (by omega)

theorem roundsTo_search :
    RoundsTo m e ((Neighbourhood.ofBinary m e (isNarrow m e)).search maxDigits
      (Neighbourhood.ofBinary m e (isNarrow m e)).order).value := by
  have hpow : (0 : ℚ) < 2 ^ e := by positivity
  set nb := Neighbourhood.ofBinary m e (isNarrow m e) with hnb
  have hden : 0 < nb.denominator := denominator_pos m e
  have hvalue : nb.ratio nb.value = m * 2 ^ e := ratio_value m e
  have hlow : nb.ratio nb.low = (m - gapBelow m e) * 2 ^ e := ratio_low hc
  have hhigh : nb.ratio nb.high = (m + 1 / 2) * 2 ^ e := ratio_high m e
  have hpos : 0 < nb.value := Nat.mul_pos (Nat.mul_pos (by decide) hc.pos) (Nat.pow_pos (by decide))
  refine roundsTo_of_contains hc (Neighbourhood.contains_search ⟨16, by decide, fun hnone => ?_⟩)
  have hwidth := Neighbourhood.width_le_of_pick_eq_none hden ?_ ?_ hnone
  · -- The finest grid is ten to the sixteen times as fine as the leading digit.
    have horder := Neighbourhood.order_le hden hpos
    have hgrid : (10 : ℚ) ^ (nb.order - (16 : Nat)) = 10 ^ nb.order / 10 ^ 16 := by
      rw [zpow_sub₀ (by norm_num), zpow_natCast]
    have hbound : (m : ℚ) / 10 ^ 16 < 1 / 2 + gapBelow m e := by
      rw [gapBelow_eq]
      split
      case isTrue hnarrow =>
        have hm : m = 2 ^ 52 := by
          have := (Bool.and_eq_true _ _).mp hnarrow
          exact of_decide_eq_true this.1
        rw [hm]
        norm_num
      case isFalse =>
        have hm : (m : ℚ) < (2 ^ 53 : Nat) := by exact_mod_cast hc.bound
        rw [div_lt_iff₀ (by norm_num)]
        norm_num at hm ⊢
        linarith
    rw [hgrid, hlow, hhigh] at hwidth
    rw [hvalue] at horder
    have hgrid' : (10 : ℚ) ^ nb.order / 10 ^ 16 ≤ m / 10 ^ 16 * 2 ^ e := by
      rw [div_mul_eq_mul_div]
      exact div_le_div_of_nonneg_right horder (by norm_num)
    have hlt := mul_lt_mul_of_pos_right hbound hpow
    linarith
  · rw [hlow, hvalue]
    exact mul_lt_mul_of_pos_right (by rw [gapBelow_eq]; split <;> linarith) hpow
  · rw [hvalue, hhigh]
    exact mul_lt_mul_of_pos_right (by linarith) hpow

end Binary

/-! ### Zeros at the end -/

theorem value_stripZeros (fuel : Nat) (d : Decimal) : (d.stripZeros fuel).value = d.value := by
  induction fuel generalizing d with
  | zero => rfl
  | succ fuel ih =>
    unfold stripZeros
    split
    case isTrue hzeros =>
      have hdigits : (d.digits : ℚ) = (d.digits / 10 : Nat) * 10 := by
        exact_mod_cast (Nat.div_mul_cancel (Nat.dvd_of_mod_eq_zero hzeros.2)).symm
      rw [ih, value, value, zpow_add_one₀ (by norm_num), hdigits]
      ring
    case isFalse => rfl

theorem roundsTo_shortest {m : Nat} {e : Int} (hc : Canonical m e) :
    RoundsTo m e (shortest m e (isNarrow m e)).value := by
  rw [shortest, value_stripZeros]
  exact roundsTo_search hc

end GeoFilter.Decimal
