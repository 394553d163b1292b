import GeoFilter.Floating
import Mathlib.Algebra.Order.Field.Power
import Mathlib.Data.Rat.Cast.Order
import Mathlib.Tactic.FieldSimp
import Mathlib.Tactic.Linarith
import Mathlib.Tactic.NormNum
import Mathlib.Tactic.Ring

/-!
# Rounding to double precision

The model of floating-point arithmetic rounds a mantissa of which it knows only how it compares with the exact value.
`Approximates` is that knowledge, and `RoundsTo` is the interval of values around a number that round to the number;
whatever lies in it is rounded to exactly that number.
-/

namespace GeoFilter.Floating

open Float.Model Float.Model.UnpackedFloat

/-! ### Numbers and their intervals -/

/-- Whether double precision holds the positive number `m * 2 ^ e` in this way. -/
structure Canonical (m : Nat) (e : Int) : Prop where
  pos : 0 < m
  bound : m < 2 ^ 53
  least : -1074 ≤ e
  greatest : e ≤ 971
  normal : e = -1074 ∨ 2 ^ 52 ≤ m

/-- How far below a number, in units of its last place, values begin to round to it: the number below the first one
of a binade is nearer than the others. -/
def gapBelow (m : Nat) (e : Int) : ℚ := if m = 2 ^ 52 ∧ -1074 < e then 1 / 4 else 1 / 2

/-- Whether a value lies between the ends of the interval that rounds to `m * 2 ^ e`; the ends belong to it if `m` is
even. -/
def RoundsTo (m : Nat) (e : Int) (v : ℚ) : Prop :=
  (m - gapBelow m e) * 2 ^ e ≤ v ∧ v ≤ (m + 1 / 2) * 2 ^ e ∧
    (m % 2 = 1 → (m - gapBelow m e) * 2 ^ e < v ∧ v < (m + 1 / 2) * 2 ^ e)

/-! ### Approximations -/

/-- Whether a natural number with an accuracy approximates a value. -/
def Approximates (m : Nat) (x : ℚ) : Accuracy → Prop
  | .exact => x = m
  | .inexact .lt => m < x ∧ x < m + 1 / 2
  | .inexact .eq => x = m + 1 / 2
  | .inexact .gt => m + 1 / 2 < x ∧ x < m + 1

theorem approximates_self (m : Nat) : Approximates m m .exact := rfl

theorem Approximates.floor {m : Nat} {x : ℚ} {accuracy : Accuracy} (h : Approximates m x accuracy) :
    m ≤ x ∧ x < m + 1 := by
  rcases accuracy with _ | (_ | _ | _) <;> simp only [Approximates] at h <;> constructor <;> linarith

/-- Half of an approximated value is approximated by the mantissa without its last bit. -/
theorem approximates_shiftRightOne {em : ExtendedMantissa} {x : ℚ} (h : Approximates em.mantissa x em.accuracy) :
    Approximates em.shiftRightOne.mantissa (x / 2) em.shiftRightOne.accuracy := by
  obtain ⟨m, roundBit, stickyBit⟩ := em
  have hdiv : ((2 * (m / 2) + m % 2 : Nat) : ℚ) = m := by rw [Nat.div_add_mod]
  push_cast at hdiv
  rcases Nat.mod_two_eq_zero_or_one m with hm | hm <;> rw [hm] at hdiv <;> cases roundBit <;> cases stickyBit <;>
    simp only [ExtendedMantissa.accuracy, ExtendedMantissa.shiftRightOne, Approximates, hm, bne_self_eq_false,
      Bool.or_self, Bool.or_true, Bool.true_or, Nat.reduceBNe, Nat.cast_zero, Nat.cast_one] at h hdiv ⊢ <;>
    first
    | linarith
    | constructor <;> linarith

theorem approximates_shiftRight {em : ExtendedMantissa} {x : ℚ} (h : Approximates em.mantissa x em.accuracy)
    (n : Nat) : Approximates (em >>> n).mantissa (x / 2 ^ n) (em >>> n).accuracy := by
  induction n with
  | zero =>
    rw [pow_zero, div_one]
    exact h
  | succ n ih =>
    rw [pow_succ, ← div_div]
    exact approximates_shiftRightOne ih

/-- The natural number next to a value is the one that its approximation is rounded to; of two equally near it is the
even one. -/
theorem roundToNearestEven_eq {m n : Nat} {x : ℚ} {accuracy : Accuracy} (h : Approximates m x accuracy)
    (hlow : n - 1 / 2 ≤ x) (hhigh : x ≤ n + 1 / 2) (hodd : n % 2 = 1 → n - 1 / 2 < x ∧ x < n + 1 / 2) :
    accuracy.roundToNearestEven m = n := by
  have hfloor := h.floor
  have hle : m < n + 1 := by
    have hle : (m : ℚ) < (n + 1 : Nat) := by
      push_cast
      linarith
    exact_mod_cast hle
  have hge : n < m + 2 := by
    have hge : (n : ℚ) < (m + 2 : Nat) := by
      push_cast
      linarith
    exact_mod_cast hge
  -- The number next to the value is the mantissa or the one above it.
  obtain rfl | rfl : n = m ∨ n = m + 1 := by omega
  all_goals
    push_cast at *
    rcases accuracy with _ | (_ | _ | _) <;> simp only [Approximates, Accuracy.roundToNearestEven] at h ⊢
  case inl.inexact.eq =>
    have hn : n % 2 ≠ 1 := by
      intro hn
      have := hodd hn
      linarith
    omega
  case inl.inexact.gt => linarith
  case inr.exact => linarith
  case inr.inexact.lt => linarith
  case inr.inexact.eq =>
    have hn : (m + 1) % 2 ≠ 1 := by
      intro hn
      have := hodd hn
      linarith
    omega

/-! ### Shifts -/

theorem targetExponent_eq (m : Nat) (e : Int) :
    Format.binary64.targetExponent (totalExponent m e) = max (m.log2 + e - 52) (-1074) := by
  change max ((m.log2 : Int) + 1 + e - 53) (-1074) = _
  omega

/-- Where a mantissa is shifted to the right, it approximates its value in units of the exponent reached. -/
theorem shiftToTargetExponent_approximates {m : Nat} {e : Int} {x : ℚ} {accuracy : Accuracy}
    (h : Approximates m x accuracy) {t : Int} (ht : Format.binary64.targetExponent (totalExponent m e) = t)
    (he : e ≤ t) :
    (shiftToTargetExponent Format.binary64 m e accuracy).2 = t ∧
      Approximates (shiftToTargetExponent Format.binary64 m e accuracy).1.mantissa (x * 2 ^ e / 2 ^ t)
        (shiftToTargetExponent Format.binary64 m e accuracy).1.accuracy := by
  have hextended : Approximates (ExtendedMantissa.ofMantissaAndAccuracy m accuracy).mantissa x
      (ExtendedMantissa.ofMantissaAndAccuracy m accuracy).accuracy := by
    rcases accuracy with _ | (_ | _ | _) <;> exact h
  have hvalue : x * 2 ^ e / 2 ^ t = x / 2 ^ (t - e).toNat := by
    have hpow : (2 : ℚ) ^ t = 2 ^ e * 2 ^ (t - e).toNat := by
      rw [← zpow_natCast, ← zpow_add₀ two_ne_zero]
      congr 1
      omega
    rw [hpow]
    field_simp
  rw [shiftToTargetExponent, ht]
  refine ⟨?_, ?_⟩
  · change e + ((t - e).toNat : Int) = t
    omega
  · rw [hvalue]
    exact approximates_shiftRight hextended _

theorem Canonical.targetExponent {m : Nat} {e : Int} (h : Canonical m e) :
    Format.binary64.targetExponent (totalExponent m e) = e := by
  have hlog : m.log2 < 53 := (Nat.log2_lt h.pos.ne').mpr h.bound
  have hleast := h.least
  rw [targetExponent_eq]
  rcases h.normal with rfl | hnormal
  · omega
  · have hlog' : 52 ≤ m.log2 := (Nat.le_log2 h.pos.ne').mpr hnormal
    omega

theorem Canonical.shiftToTargetExponent {m : Nat} {e : Int} (h : Canonical m e) :
    shiftToTargetExponent Format.binary64 m e .exact = (⟨m, false, false⟩, e) := by
  unfold UnpackedFloat.shiftToTargetExponent shiftToExponent
  dsimp only
  rw [h.targetExponent, Int.sub_self]
  exact Prod.ext rfl (Int.add_zero e)

theorem shiftToTargetExponent_carried {e : Int} (he : -1074 ≤ e) :
    shiftToTargetExponent Format.binary64 (2 ^ 53) e .exact = (⟨2 ^ 52, false, false⟩, e + 1) := by
  have hlog : Nat.log2 (2 ^ 53) = 53 := Nat.log2_two_pow
  have htarget : max (((53 : Nat) : Int) + e - 52) (-1074) = e + 1 := by omega
  have hone : (e + 1 - e).toNat = 1 := by omega
  unfold UnpackedFloat.shiftToTargetExponent shiftToExponent
  dsimp only
  rw [targetExponent_eq, hlog, htarget, hone]
  rfl

/-! ### Rounding -/

section Target

variable {m n : Nat} {e e' : Int} {x : ℚ} {accuracy : Accuracy}

theorem gapBelow_le (n : Nat) (e : Int) : gapBelow n e ≤ 1 / 2 := by
  unfold gapBelow
  split <;> norm_num

theorem value_lt_of_approximates (h : Approximates m x accuracy) (e : Int) : x * 2 ^ e < 2 ^ (m.log2 + 1 + e) := by
  have hpow : ((m + 1 : Nat) : ℚ) ≤ (2 ^ (m.log2 + 1) : Nat) := Nat.cast_le.mpr Nat.lt_log2_self
  push_cast at hpow
  have hx : x < 2 ^ (m.log2 + 1) := lt_of_lt_of_le h.floor.2 hpow
  rw [zpow_add₀ two_ne_zero]
  exact mul_lt_mul_of_pos_right (by exact_mod_cast hx) (by positivity)

theorem le_value_of_approximates (h : Approximates m x accuracy) (hm : m ≠ 0) (e : Int) :
    (2 : ℚ) ^ (m.log2 + e) ≤ x * 2 ^ e := by
  have hpow : ((2 ^ m.log2 : Nat) : ℚ) ≤ m := Nat.cast_le.mpr (Nat.log2_self_le hm)
  push_cast at hpow
  have hx : 2 ^ m.log2 ≤ x := hpow.trans h.floor.1
  rw [zpow_add₀ two_ne_zero]
  exact mul_le_mul_of_nonneg_right (by exact_mod_cast hx) (by positivity)

/-- A value that rounds to a number is shifted to the exponent of the number, or stands below a binade and is shifted
to the exponent before. -/
theorem targetExponent_of_roundsTo (hc : Canonical n e') (h : Approximates m x accuracy)
    (he : e ≤ Format.binary64.targetExponent (totalExponent m e)) (hv : RoundsTo n e' (x * 2 ^ e)) :
    Format.binary64.targetExponent (totalExponent m e) = e' ∨
      n = 2 ^ 52 ∧ -1074 < e' ∧ Format.binary64.targetExponent (totalExponent m e) = e' - 1 ∧
        x * 2 ^ e < 2 ^ (52 + e') := by
  obtain ⟨hlow, hhigh, _⟩ := hv
  have hlt := value_lt_of_approximates h e
  have hgap := gapBelow_le n e'
  have hleast := hc.least
  have hpos : (0 : ℚ) < 2 ^ e' := by positivity
  have hbound : (n : ℚ) + 1 ≤ 2 ^ 53 := by exact_mod_cast hc.bound
  rw [targetExponent_eq] at he ⊢
  have hle : (m.log2 : Int) + e - 52 ≤ e' := by
    by_cases hm : m = 0
    · subst hm
      have hlog : Nat.log2 0 = 0 := rfl
      rw [hlog] at he ⊢
      omega
    · have hge := le_value_of_approximates h hm e
      have hlt' : (2 : ℚ) ^ (m.log2 + e) < 2 ^ (53 + e') := by
        rw [zpow_add₀ two_ne_zero 53 e']
        calc (2 : ℚ) ^ (m.log2 + e) ≤ (n + 1 / 2) * 2 ^ e' := hge.trans hhigh
          _ < 2 ^ (53 : Int) * 2 ^ e' := mul_lt_mul_of_pos_right (by norm_num at hbound ⊢; linarith) hpos
      have := (zpow_lt_zpow_iff_right₀ (by norm_num : (1 : ℚ) < 2)).mp hlt'
      omega
  by_cases heq : max ((m.log2 : Int) + e - 52) (-1074) = e'
  · exact .inl heq
  · right
    have hbelow : (m.log2 : Int) + 1 + e ≤ 52 + e' := by omega
    have hlt' : x * 2 ^ e < 2 ^ (52 + e') :=
      hlt.trans_le ((zpow_le_zpow_iff_right₀ (by norm_num : (1 : ℚ) < 2)).mpr hbelow)
    have hnormal : 2 ^ 52 ≤ n := hc.normal.resolve_left (by omega)
    have hn : n = 2 ^ 52 := by
      have hnear : (n - gapBelow n e') * 2 ^ e' < 2 ^ (52 : Int) * 2 ^ e' := by
        rw [← zpow_add₀ two_ne_zero]
        exact hlow.trans_lt hlt'
      have hnear := lt_of_mul_lt_mul_right hnear hpos.le
      have hpow : (2 : ℚ) ^ (52 : Int) = 4503599627370496 := by norm_num
      have hlt : (n : ℚ) < (4503599627370497 : Nat) := by
        push_cast
        linarith
      have := Nat.cast_lt.mp hlt
      omega
    refine ⟨hn, by omega, ?_, hlt'⟩
    have habove : (2 : ℚ) ^ (51 + e') < 2 ^ ((m.log2 : Int) + 1 + e) := by
      refine lt_of_le_of_lt ?_ hlt
      refine le_trans ?_ hlow
      rw [zpow_add₀ two_ne_zero]
      refine mul_le_mul_of_nonneg_right ?_ hpos.le
      rw [hn] at hgap ⊢
      push_cast
      linarith
    have := (zpow_lt_zpow_iff_right₀ (by norm_num : (1 : ℚ) < 2)).mp habove
    omega

/-- **Rounding is to the nearest.**  Whatever approximates a value in the interval of a number is rounded to that
number, whether it is shifted to the exponent of the number or comes to it from the binade below. -/
theorem roundWithAccuracy_eq (hc : Canonical n e') (h : Approximates m x accuracy)
    (he : e ≤ Format.binary64.targetExponent (totalExponent m e)) (hv : RoundsTo n e' (x * 2 ^ e)) (sign : Sign) :
    roundWithAccuracy Format.binary64 sign m e accuracy = .finite sign n e' hc.pos := by
  have hpos : (0 : ℚ) < 2 ^ e' := by positivity
  have hgap := gapBelow_le n e'
  have htarget := targetExponent_of_roundsTo hc h he hv
  obtain ⟨hexponent, hmantissa⟩ := shiftToTargetExponent_approximates h rfl he
  obtain ⟨hlow, hhigh, hodd⟩ := hv
  have hround : ∀ {k : Nat} {t : Int}, Format.binary64.targetExponent (totalExponent m e) = t →
      (shiftToTargetExponent Format.binary64 m e accuracy).1.roundedMantissa = k →
      shiftToTargetExponent Format.binary64 k t .exact = (⟨n, false, false⟩, e') →
      roundWithAccuracy Format.binary64 sign m e accuracy = .finite sign n e' hc.pos := by
    intro k t ht hk hshift
    rw [ht] at hexponent
    unfold roundWithAccuracy
    dsimp only
    rw [hexponent, hk, hshift]
    exact dif_neg hc.pos.ne'
  rcases htarget with ht | ⟨hn, hleast, ht, hbelow⟩
  · refine hround ht ?_ hc.shiftToTargetExponent
    rw [ht] at hmantissa
    refine roundToNearestEven_eq hmantissa ?_ ?_ fun hn => ⟨?_, ?_⟩
    · rw [le_div_iff₀ hpos]
      exact le_trans (mul_le_mul_of_nonneg_right (by linarith) hpos.le) hlow
    · rw [div_le_iff₀ hpos]
      exact hhigh
    · rw [lt_div_iff₀ hpos]
      exact lt_of_le_of_lt (mul_le_mul_of_nonneg_right (by linarith) hpos.le) (hodd hn).1
    · rw [div_lt_iff₀ hpos]
      exact (hodd hn).2
  · -- The mantissa comes to `2 ^ 53` here, an even number, and is shifted once more.
    subst hn
    have hcarried : shiftToTargetExponent Format.binary64 (2 ^ 53) (e' - 1) .exact = (⟨2 ^ 52, false, false⟩, e') := by
      rw [shiftToTargetExponent_carried (by omega)]
      exact Prod.ext rfl (by omega)
    refine hround ht ?_ hcarried
    rw [ht] at hmantissa
    have hhalf : (2 : ℚ) ^ (e' - 1) = 2 ^ e' / 2 := by rw [zpow_sub_one₀ two_ne_zero, div_eq_mul_inv]
    have hvalue : x * 2 ^ e / 2 ^ (e' - 1) = 2 * (x * 2 ^ e / 2 ^ e') := by
      rw [hhalf]
      field_simp
    have hgap : gapBelow (2 ^ 52) e' = 1 / 4 := if_pos ⟨rfl, hleast⟩
    rw [hgap, ← le_div_iff₀ hpos] at hlow
    rw [zpow_add₀ two_ne_zero, ← div_lt_iff₀ hpos] at hbelow
    rw [hvalue] at hmantissa
    push_cast at hlow
    norm_num at hlow hbelow
    refine roundToNearestEven_eq hmantissa ?_ ?_ fun hodd => absurd hodd (by decide)
    · push_cast
      linarith
    · push_cast
      linarith

end Target

end GeoFilter.Floating
