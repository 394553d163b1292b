import GeoFilter.Decimal
import GeoFilter.Proofs.Rounding.Packing

/-!
# Decimals as numbers

A decimal is read as the number to whose interval it belongs, whichever of the ways of multiplying by a power of ten
is taken.
-/

namespace GeoFilter.Floating

open Float.Model (Format UnpackedFloat totalExponent)
open Float.Model.UnpackedFloat

theorem gapBelow_pos (m : Nat) (e : Int) : 0 < gapBelow m e := by
  unfold gapBelow
  split <;> norm_num

theorem Canonical.roundsTo_self {m : Nat} {e : Int} (_ : Canonical m e) : RoundsTo m e (m * 2 ^ e) := by
  have hgap := gapBelow_pos m e
  have hpos : (0 : ℚ) < 2 ^ e := by positivity
  have hlow : (m - gapBelow m e) * 2 ^ e < m * 2 ^ e := mul_lt_mul_of_pos_right (by linarith) hpos
  have hhigh : (m : ℚ) * 2 ^ e < (m + 1 / 2) * 2 ^ e := mul_lt_mul_of_pos_right (by linarith) hpos
  exact ⟨hlow.le, hhigh.le, fun _ => ⟨hlow, hhigh⟩⟩

/-! ### Products and quotients -/

section Operations

variable {n : Nat} {e' : Int} (hc : Canonical n e')

include hc

/-- A product is rounded to the number of whose interval it is, if a factor has enough bits. -/
theorem mul_eq_of_roundsTo {m₁ m₂ : Nat} {e₁ e₂ : Int} {h₁ : 0 < m₁} {h₂ : 0 < m₂} (hbits : 2 ^ 52 ≤ m₁)
    (hv : RoundsTo n e' (m₁ * 2 ^ e₁ * (m₂ * 2 ^ e₂))) :
    UnpackedFloat.mul Format.binary64 (.finite .positive m₁ e₁ h₁) (.finite .positive m₂ e₂ h₂) =
      .finite .positive n e' hc.pos := by
  have hbits : 2 ^ 52 ≤ m₁ * m₂ := hbits.trans (Nat.le_mul_of_pos_right m₁ h₂)
  have hlog : 52 ≤ (m₁ * m₂).log2 := (Nat.le_log2 (by positivity)).mpr hbits
  have hvalue : (m₁ * 2 ^ e₁ * (m₂ * 2 ^ e₂) : ℚ) = (m₁ * m₂ : Nat) * 2 ^ (e₁ + e₂) := by
    rw [zpow_add₀ two_ne_zero]
    push_cast
    ring
  rw [hvalue] at hv
  refine roundWithAccuracy_eq hc (approximates_self _) ?_ hv .positive
  rw [targetExponent_eq]
  omega

omit hc in
theorem approximates_div (m : Nat) {d : Nat} (hd : 0 < d) :
    Approximates (m / d) ((m : ℚ) / d) (accuracyOfFraction (m % d) d) := by
  have hd' : (0 : ℚ) < d := by exact_mod_cast hd
  have hvalue : (m : ℚ) / d = (m / d : Nat) + (m % d : Nat) / d := by
    rw [div_eq_iff hd'.ne', add_mul, div_mul_cancel₀ _ hd'.ne']
    exact_mod_cast (Nat.div_add_mod' m d).symm
  have hmod : ((m % d : Nat) : ℚ) < d := by exact_mod_cast Nat.mod_lt m hd
  rw [hvalue]
  unfold accuracyOfFraction
  split
  case isTrue hzero => simp [Approximates, hzero]
  case isFalse hne =>
    have hpos : (0 : ℚ) < (m % d : Nat) / d := div_pos (by exact_mod_cast Nat.pos_of_ne_zero hne) hd'
    rcases hcompare : compare (2 * (m % d)) d
    case lt =>
      have hlt : ((2 * (m % d) : Nat) : ℚ) < d := by exact_mod_cast Nat.compare_eq_lt.mp hcompare
      push_cast at hlt
      refine ⟨by linarith, add_lt_add_right ?_ _⟩
      rw [div_lt_iff₀ hd']
      linarith
    case eq =>
      have heq : ((2 * (m % d) : Nat) : ℚ) = d := by exact_mod_cast Nat.compare_eq_eq.mp hcompare
      push_cast at heq
      have hhalf : ((m % d : Nat) : ℚ) / d = 1 / 2 := by
        rw [div_eq_iff hd'.ne']
        linarith
      exact congrArg _ hhalf
    case gt =>
      have hgt : (d : ℚ) < ((2 * (m % d) : Nat) : ℚ) := by exact_mod_cast Nat.compare_eq_gt.mp hcompare
      push_cast at hgt
      refine ⟨add_lt_add_right ?_ _, add_lt_add_right ?_ _⟩
      · rw [lt_div_iff₀ hd']
        linarith
      · rw [div_lt_iff₀ hd']
        linarith

theorem div_eq_of_roundsTo {m₁ m₂ : Nat} {e₁ e₂ : Int} {h₁ : 0 < m₁} {h₂ : 0 < m₂}
    (hv : RoundsTo n e' (m₁ * 2 ^ e₁ / (m₂ * 2 ^ e₂))) :
    UnpackedFloat.div Format.binary64 (.finite .positive m₁ e₁ h₁) (.finite .positive m₂ e₂ h₂) =
      .finite .positive n e' hc.pos := by
  set t := min (e₁ - e₂) (Format.binary64.targetExponent (totalExponent m₁ e₁ - totalExponent m₂ e₂)) with ht
  set k := (e₁ - e₂ - t).toNat with hk
  have hkt : (k : Int) = e₁ - e₂ - t := by omega
  have htarget : t ≤ max ((m₁.log2 : Int) + e₁ - (m₂.log2 + e₂) - 53) (-1074) := by
    refine (Int.min_le_right _ _).trans ?_
    change max ((m₁.log2 : Int) + 1 + e₁ - (m₂.log2 + 1 + e₂) - 53) (-1074) ≤ _
    omega
  have hvalue : (m₁ * 2 ^ e₁ / (m₂ * 2 ^ e₂) : ℚ) = ((m₁ <<< k : Nat) : ℚ) / m₂ * 2 ^ t := by
    have hpow : (2 : ℚ) ^ e₁ = 2 ^ k * 2 ^ e₂ * 2 ^ t := by
      rw [← zpow_natCast, ← zpow_add₀ two_ne_zero, ← zpow_add₀ two_ne_zero]
      congr 1
      omega
    rw [Nat.shiftLeft_eq, hpow]
    push_cast
    field_simp
  rw [hvalue] at hv
  refine roundWithAccuracy_eq hc (approximates_div (m₁ <<< k) h₂) ?_ hv .positive
  rw [targetExponent_eq]
  by_cases hmin : t ≤ -1074
  · omega
  · -- Above the least exponent the quotient has all the bits it needs.
    have hquotient : 2 ^ 52 ≤ m₁ <<< k / m₂ := by
      rw [Nat.le_div_iff_mul_le h₂, Nat.shiftLeft_eq]
      calc 2 ^ 52 * m₂ ≤ 2 ^ 52 * 2 ^ (m₂.log2 + 1) := Nat.mul_le_mul_left _ Nat.lt_log2_self.le
        _ = 2 ^ (52 + (m₂.log2 + 1)) := (pow_add ..).symm
        _ ≤ 2 ^ (m₁.log2 + k) := Nat.pow_le_pow_right two_pos (by omega)
        _ = 2 ^ m₁.log2 * 2 ^ k := pow_add ..
        _ ≤ m₁ * 2 ^ k := Nat.mul_le_mul_right _ (Nat.log2_self_le h₁.ne')
    have hlog := (Nat.le_log2 (by omega)).mpr hquotient
    omega

end Operations

/-! ### Factors -/

theorem round_of_lt {m : Nat} {e : Int} (hpos : 0 < m) (hbound : m < 2 ^ 53) (hleast : -1022 ≤ e)
    (hgreatest : e ≤ 971) (sign : Sign) :
    ∃ (m' : Nat) (e' : Int) (h : Canonical m' e'),
      UnpackedFloat.round Format.binary64 sign m e = .finite sign m' e' h.pos ∧ 2 ^ 52 ≤ m' ∧
        (m' : ℚ) * 2 ^ e' = m * 2 ^ e := by
  have hlog : m.log2 < 53 := (Nat.log2_lt hpos.ne').mpr hbound
  set k := 52 - m.log2 with hk
  have hshift : m <<< k = m * 2 ^ k := Nat.shiftLeft_eq m k
  have hlow : 2 ^ 52 ≤ m * 2 ^ k := by
    calc 2 ^ 52 = 2 ^ m.log2 * 2 ^ k := by rw [← pow_add]; congr 1; omega
      _ ≤ m * 2 ^ k := Nat.mul_le_mul_right _ (Nat.log2_self_le hpos.ne')
  have hhigh : m * 2 ^ k < 2 ^ 53 := by
    calc m * 2 ^ k < 2 ^ (m.log2 + 1) * 2 ^ k := Nat.mul_lt_mul_of_pos_right Nat.lt_log2_self (by positivity)
      _ = 2 ^ 53 := by rw [← pow_add]; congr 1; omega
  have hc : Canonical (m * 2 ^ k) (e - k) := ⟨by omega, hhigh, by omega, by omega, .inr hlow⟩
  refine ⟨m * 2 ^ k, e - k, hc, ?_, hlow, ?_⟩
  · have htarget : Format.binary64.targetExponent (totalExponent m e) = e - k := by
      rw [targetExponent_eq]
      omega
    have hround : UnpackedFloat.round Format.binary64 sign m e =
        roundWithAccuracy Format.binary64 sign (m * 2 ^ k) (e - k) .exact := by
      unfold UnpackedFloat.round decreaseExponent
      dsimp only
      rw [htarget, ← hshift]
      congr 1
      · congr 1
        omega
      · omega
    rw [hround]
    exact roundWithAccuracy_eq hc (approximates_self _) hc.targetExponent.ge hc.roundsTo_self sign
  · push_cast
    rw [zpow_sub₀ two_ne_zero, zpow_natCast]
    field_simp

theorem fields_toFloat_of_lt {m : Nat} (hpos : 0 < m) (hbound : m < 2 ^ 53) :
    ∃ (m' : Nat) (e : Int) (h : 0 < m'), fields m.toUInt64.toFloat = .finite .positive m' e h ∧
      2 ^ 52 ≤ m' ∧ (m' : ℚ) * 2 ^ e = m := by
  obtain ⟨m', e, hc, hround, hlow, hvalue⟩ := round_of_lt (e := 0) hpos hbound (by decide) (by decide) .positive
  have hfields : fields m.toUInt64.toFloat = unpack Format.binary64 (pack Format.binary64
      (UnpackedFloat.normalize Format.binary64 (m.toUInt64.toNat : Nat) 0 .positive)) := rfl
  have htoNat : m.toUInt64.toNat = m := by
    change m % 2 ^ 64 = m
    omega
  have hcompare : compare (m : Int) 0 = .gt := by
    rw [compare_gt_iff_gt]
    omega
  refine ⟨m', e, hc.pos, ?_, hlow, by rw [hvalue, zpow_zero, mul_one]⟩
  rw [hfields, htoNat, UnpackedFloat.normalize, hcompare]
  dsimp only
  rw [Int.toNat_natCast, hround]
  exact hc.unpack_pack .positive

def IsExactly (k : Nat) : UnpackedFloat → Prop
  | .finite .positive m e _ => m * 2 ^ e.toNat = k * 2 ^ (-e).toNat
  | _ => False

instance (k : Nat) : DecidablePred (IsExactly k)
  | .finite .positive m e _ => inferInstanceAs (Decidable (m * 2 ^ e.toNat = k * 2 ^ (-e).toNat))
  | .finite .negative .. => isFalse id
  | .zero _ => isFalse id
  | .infinity _ => isFalse id
  | .notANumber => isFalse id

theorem IsExactly.exists_value {k : Nat} {f : UnpackedFloat} (h : IsExactly k f) :
    ∃ (m : Nat) (e : Int) (hm : 0 < m), f = .finite .positive m e hm ∧ (m : ℚ) * 2 ^ e = k := by
  cases f with
  | finite sign m e hm =>
    cases sign with
    | negative => exact h.elim
    | positive =>
      refine ⟨m, e, hm, rfl, ?_⟩
      have hexact : ((m * 2 ^ e.toNat : Nat) : ℚ) = (k * 2 ^ (-e).toNat : Nat) := congrArg _ h
      have hpow : (2 : ℚ) ^ e = 2 ^ e.toNat / 2 ^ (-e).toNat := by
        rw [← zpow_natCast, ← zpow_natCast, ← zpow_sub₀ two_ne_zero]
        congr 1
        omega
      push_cast at hexact
      rw [hpow, mul_div_assoc', hexact]
      field_simp
  | zero | infinity | notANumber => exact h.elim

theorem isExactly_powerOfTen : ∀ k : Fin Float.exactlyRepresentablePowersOfTen.size,
    IsExactly (10 ^ k.val) (fields Float.exactlyRepresentablePowersOfTen[k]) := by decide +kernel

theorem fields_powerOfTen {k : Nat} (hk : k < Float.exactlyRepresentablePowersOfTen.size) :
    ∃ (m : Nat) (e : Int) (h : 0 < m), fields Float.exactlyRepresentablePowersOfTen[k] = .finite .positive m e h ∧
      (m : ℚ) * 2 ^ e = 10 ^ k := by
  obtain ⟨m, e, hm, hfields, hvalue⟩ := (isExactly_powerOfTen (Fin.mk k hk)).exists_value
  refine ⟨m, e, hm, hfields, ?_⟩
  rw [hvalue, Nat.cast_pow, Nat.cast_ofNat]

end GeoFilter.Floating

namespace GeoFilter.Decimal

open Float.Model (Format UnpackedFloat)
open Float.Model.UnpackedFloat
open Floating

def value (d : Decimal) : ℚ := d.digits * 10 ^ d.exponent

variable {n : Nat} {e' : Int} (hc : Canonical n e')

include hc

/-- Values that round to a number are neither too small nor too large for the powers of ten that are computed. -/
theorem bounds_of_roundsTo {v : ℚ} (hv : RoundsTo n e' v) : 2 ^ (-1075 : Int) ≤ v ∧ v < 2 ^ (1024 : Int) := by
  obtain ⟨hlow, hhigh, _⟩ := hv
  have hgap := gapBelow_le n e'
  have hpos : (0 : ℚ) < 2 ^ e' := by positivity
  have hone : (1 : ℚ) ≤ n := by exact_mod_cast hc.pos
  have hbound : (n : ℚ) + 1 ≤ 2 ^ 53 := by exact_mod_cast hc.bound
  constructor
  · calc (2 : ℚ) ^ (-1075 : Int) ≤ 2 ^ (e' - 1) :=
          (zpow_le_zpow_iff_right₀ (by norm_num)).mpr (by have := hc.least; omega)
      _ = 1 / 2 * 2 ^ e' := by rw [zpow_sub_one₀ two_ne_zero]; ring
      _ ≤ (n - gapBelow n e') * 2 ^ e' := mul_le_mul_of_nonneg_right (by linarith) hpos.le
      _ ≤ v := hlow
  · calc v ≤ (n + 1 / 2) * 2 ^ e' := hhigh
      _ < 2 ^ 53 * 2 ^ e' := mul_lt_mul_of_pos_right (by linarith) hpos
      _ = 2 ^ (53 + e') := by rw [zpow_add₀ two_ne_zero]; rfl
      _ ≤ 2 ^ (1024 : Int) := (zpow_le_zpow_iff_right₀ (by norm_num)).mpr (by have := hc.greatest; omega)

/-- Digits and a power of ten are multiplied to the number of whose interval the product is. -/
theorem ofScientific_of_roundsTo {m : Nat} {e : Int} (hm : 0 < m) (hv : RoundsTo n e' (m * 10 ^ e)) :
    UnpackedFloat.ofScientific Format.binary64 m e = .finite .positive n e' hc.pos := by
  obtain ⟨hlow, hhigh⟩ := bounds_of_roundsTo hc hv
  have hlarge : ¬e > 2 ^ 11 := by
    intro he
    obtain ⟨k, rfl⟩ := Int.eq_ofNat_of_zero_le (by omega : 0 ≤ e)
    have hpow : (2 : ℚ) ^ (1024 : Int) ≤ m * 10 ^ (k : Int) := by
      have hm : (1 : ℚ) ≤ m := by exact_mod_cast hm
      calc (2 : ℚ) ^ (1024 : Int) ≤ 2 ^ (k : Int) := (zpow_le_zpow_iff_right₀ (by norm_num)).mpr (by omega)
        _ ≤ 10 ^ (k : Int) := by
          rw [zpow_natCast, zpow_natCast]
          exact pow_le_pow_left₀ (by norm_num) (by norm_num) k
        _ ≤ m * 10 ^ (k : Int) := le_mul_of_one_le_left (by positivity) hm
    linarith
  have hsmall : ¬e < -((2 ^ 11 : Int) + m.log2) := by
    intro he
    obtain ⟨k, hk⟩ := Int.eq_ofNat_of_zero_le (by omega : 0 ≤ -e)
    obtain rfl : e = -(k : Int) := by omega
    have hpow : (m * 10 ^ (-(k : Int)) : ℚ) < 2 ^ (-1075 : Int) := by
      have hm : (m : ℚ) < 2 ^ (m.log2 + 1 : Int) := by exact_mod_cast Nat.lt_log2_self (n := m)
      calc (m * 10 ^ (-(k : Int)) : ℚ) ≤ m * 2 ^ (-(k : Int)) := by
            refine mul_le_mul_of_nonneg_left ?_ (by positivity)
            rw [zpow_neg, zpow_neg, zpow_natCast, zpow_natCast]
            exact inv_anti₀ (by positivity) (pow_le_pow_left₀ (by norm_num) (by norm_num) k)
        _ < 2 ^ (m.log2 + 1 : Int) * 2 ^ (-(k : Int)) := mul_lt_mul_of_pos_right hm (by positivity)
        _ = 2 ^ (m.log2 + 1 + -(k : Int)) := (zpow_add₀ two_ne_zero _ _).symm
        _ ≤ 2 ^ (-1075 : Int) := (zpow_le_zpow_iff_right₀ (by norm_num)).mpr (by omega)
    linarith
  unfold UnpackedFloat.ofScientific
  rw [dif_neg hm.ne', if_neg hlarge, if_neg hsmall]
  by_cases he : 0 ≤ e
  · rw [if_pos he]
    obtain ⟨k, rfl⟩ := Int.eq_ofNat_of_zero_le he
    have hbits : 2 ^ 52 ≤ m <<< Format.binary64.mantissaBits := by
      rw [Nat.shiftLeft_eq]
      change 2 ^ 52 ≤ m * 2 ^ 53
      omega
    refine mul_eq_of_roundsTo hc hbits ?_
    have hvalue : ((m <<< Format.binary64.mantissaBits : Nat) : ℚ) * 2 ^ (-(Format.binary64.mantissaBits : Int)) *
        ((10 ^ (k : Int).toNat : Nat) * 2 ^ (0 : Int)) = m * 10 ^ (k : Int) := by
      rw [Nat.shiftLeft_eq, zpow_neg, zpow_natCast, zpow_natCast, Int.toNat_natCast]
      push_cast
      field_simp
    rwa [hvalue]
  · rw [if_neg he]
    obtain ⟨k, hk⟩ := Int.eq_ofNat_of_zero_le (by omega : 0 ≤ -e)
    obtain rfl : e = -(k : Int) := by omega
    refine div_eq_of_roundsTo hc ?_
    have hvalue : (m : ℚ) * 2 ^ (0 : Int) / ((10 ^ (-(-(k : Int))).toNat : Nat) * 2 ^ (0 : Int)) =
        m * 10 ^ (-(k : Int)) := by
      rw [neg_neg, Int.toNat_natCast, zpow_neg, zpow_natCast]
      push_cast
      field_simp
    rwa [hvalue]

theorem digits_pos_of_roundsTo {d : Decimal} (hv : RoundsTo n e' d.value) : 0 < d.digits := by
  refine Nat.pos_of_ne_zero fun hdigits => ?_
  have hlow := (bounds_of_roundsTo hc hv).1
  have hpos : (0 : ℚ) < 2 ^ (-1075 : Int) := by positivity
  rw [value, hdigits, Nat.cast_zero, zero_mul] at hlow
  linarith

theorem fields_toFloat {d : Decimal} (hv : RoundsTo n e' d.value) :
    fields d.toFloat = .finite .positive n e' hc.pos := by
  have hm := digits_pos_of_roundsTo hc hv
  obtain ⟨m, e⟩ := d
  have hunpack := hc.unpack_pack .positive
  unfold toFloat Float.ofScientific
  dsimp only
  by_cases hfast : m < 2 ^ 53 ∧ e.natAbs ≤ 22
  · rw [dif_pos hfast]
    obtain ⟨m₁, e₁, h₁, hfields₁, hbits, hvalue₁⟩ := fields_toFloat_of_lt hm hfast.1
    have hsize : e.natAbs < Float.exactlyRepresentablePowersOfTen.size := Nat.lt_succ_of_le hfast.2
    obtain ⟨m₂, e₂, h₂, hfields₂, hvalue₂⟩ := fields_powerOfTen hsize
    by_cases he : e < 0
    · rw [if_pos (decide_eq_true he)]
      have hvalue : value ⟨m, e⟩ = m₁ * 2 ^ e₁ / (m₂ * 2 ^ e₂) := by
        have hk : e = -(e.natAbs : Int) := by omega
        rw [hvalue₁, hvalue₂, value, hk, zpow_neg, zpow_natCast, Int.natAbs_neg, Int.natAbs_natCast]
        rfl
      rw [hvalue] at hv
      change unpack Format.binary64 (pack Format.binary64 (UnpackedFloat.div Format.binary64
        (fields m.toUInt64.toFloat) (fields Float.exactlyRepresentablePowersOfTen[e.natAbs]))) = _
      rw [hfields₁, hfields₂, div_eq_of_roundsTo hc hv, hunpack]
    · rw [if_neg (fun htrue => he (of_decide_eq_true htrue))]
      have hvalue : value ⟨m, e⟩ = m₁ * 2 ^ e₁ * (m₂ * 2 ^ e₂) := by
        have hk : e = (e.natAbs : Int) := by omega
        rw [hvalue₁, hvalue₂, value, hk, zpow_natCast, Int.natAbs_natCast]
      rw [hvalue] at hv
      change unpack Format.binary64 (pack Format.binary64 (UnpackedFloat.mul Format.binary64
        (fields m.toUInt64.toFloat) (fields Float.exactlyRepresentablePowersOfTen[e.natAbs]))) = _
      rw [hfields₁, hfields₂, mul_eq_of_roundsTo hc hbits hv, hunpack]
  · rw [dif_neg hfast]
    have he : (if decide (e < 0) = true then Int.negOfNat e.natAbs else Int.ofNat e.natAbs) = e := by
      split
      case isTrue he =>
        have := of_decide_eq_true he
        rw [Int.negOfNat_eq]
        change -(e.natAbs : Int) = e
        omega
      case isFalse he =>
        have he : ¬e < 0 := fun hlt => he (decide_eq_true hlt)
        change (e.natAbs : Int) = e
        omega
    rw [he]
    change unpack Format.binary64 (pack Format.binary64 (UnpackedFloat.ofScientific Format.binary64 m e)) = _
    rw [ofScientific_of_roundsTo hc hm hv, hunpack]

end GeoFilter.Decimal
