import GeoFilter.Proofs.Keyword
import GeoFilter.Proofs.Numeral
import GeoFilter.Proofs.Rounding.Reading

/-!
# What is read is a number

A text that writes a number is never read as a NaN, also behind a minus.  It may be read as an infinity; that is equal
to itself as well.
-/

namespace GeoFilter.Floating

open Float.Model (Format UnpackedFloat)
open Float.Model.UnpackedFloat

def IsNumber (x : Float) : Prop := fields x ≠ .notANumber

theorem IsNumber.beq_self {x : Float} (h : IsNumber x) : (x == x) = true :=
  beq_iff.mpr (.inr ⟨rfl, h⟩)

theorem unpack_packComponents_ne {sign : UnpackedFloat.Sign} {exponent : BitVec Format.binary64.exponentBits}
    {mantissa : BitVec Format.binary64.mantissaBitsWithoutImplicit} (h : exponent = -1#_ → mantissa = 0#_) :
    unpack Format.binary64 (packComponents Format.binary64 sign exponent mantissa) ≠ .notANumber := by
  unfold unpack
  dsimp only
  rw [unpackExponent_packComponents]
  by_cases hones : exponent = -1#11
  · rw [if_pos hones, if_pos (unpackMantissa_packComponents.trans (h hones))]
    nofun
  rw [if_neg hones]
  intro h
  rcases ite_eq_iff.mp h with ⟨_, h⟩ | ⟨_, h⟩
  · rcases dite_eq_iff.mp h with ⟨_, h⟩ | ⟨_, h⟩ <;> cases h
  · cases h

theorem unpack_pack_ne {f : UnpackedFloat} (h : f ≠ .notANumber) :
    unpack Format.binary64 (pack Format.binary64 f) ≠ .notANumber := by
  have hspecial : ∀ sign, unpack Format.binary64 (packedInfinity Format.binary64 sign) ≠ .notANumber :=
    fun sign => unpack_packComponents_ne fun _ => rfl
  cases f with
  | notANumber => exact absurd rfl h
  | infinity sign => exact hspecial sign
  | zero sign => exact unpack_packComponents_ne fun _ => rfl
  | finite sign m e hm =>
    unfold pack
    dsimp only
    generalize (e + Format.binary64.exponentBias + Format.binary64.mantissaBitsWithoutImplicit).toNat = biased
    split
    · exact hspecial sign
    case isFalse hsmall =>
      split
      · refine unpack_packComponents_ne fun hones => ?_
        have hbiased : biased + 1 < 2 ^ 11 := Nat.lt_of_not_le hsmall
        have htoNat : biased % 2 ^ 11 = 2 ^ 11 - 1 := congrArg BitVec.toNat hones
        rw [Nat.mod_eq_of_lt (by omega)] at htoNat
        omega
      · exact unpack_packComponents_ne fun hones => absurd hones (by decide)

theorem IsNumber.neg {x : Float} (h : IsNumber x) : IsNumber (-x) := by
  change unpack Format.binary64 (pack Format.binary64 (fields x).neg) ≠ .notANumber
  refine unpack_pack_ne ?_
  unfold IsNumber at h
  cases hfields : fields x with
  | notANumber => exact absurd hfields h
  | infinity | zero | finite => nofun

theorem roundWithAccuracy_ne (sign : UnpackedFloat.Sign) (m : Nat) (e : Int) (accuracy : Accuracy) :
    roundWithAccuracy Format.binary64 sign m e accuracy ≠ .notANumber := by
  unfold roundWithAccuracy
  dsimp only
  intro h
  rcases dite_eq_iff.mp h with ⟨_, h⟩ | ⟨_, h⟩ <;> cases h

/-! ### Digits and powers of ten -/

theorem mul_ne {f : UnpackedFloat} (hf : f.isFinite = true) (sign : UnpackedFloat.Sign) (m : Nat) (e : Int)
    (hm : 0 < m) : UnpackedFloat.mul Format.binary64 f (.finite sign m e hm) ≠ .notANumber := by
  cases f with
  | notANumber | infinity => cases hf
  | zero => nofun
  | finite => exact roundWithAccuracy_ne _ _ _ _

theorem div_ne {f : UnpackedFloat} (hf : f.isFinite = true) (sign : UnpackedFloat.Sign) (m : Nat) (e : Int)
    (hm : 0 < m) : UnpackedFloat.div Format.binary64 f (.finite sign m e hm) ≠ .notANumber := by
  cases f with
  | notANumber | infinity => cases hf
  | zero => nofun
  | finite => exact roundWithAccuracy_ne _ _ _ _

theorem isFinite_toFloat {m : Nat} (hbound : m < 2 ^ 53) : (fields m.toUInt64.toFloat).isFinite = true := by
  rcases Nat.eq_zero_or_pos m with rfl | hpos
  · decide +kernel
  · obtain ⟨m', e, h, hfields, _⟩ := fields_toFloat_of_lt hpos hbound
    rw [hfields]
    rfl

theorem ofScientific_ne (m : Nat) (e : Int) : UnpackedFloat.ofScientific Format.binary64 m e ≠ .notANumber := by
  unfold UnpackedFloat.ofScientific
  intro h
  rcases dite_eq_iff.mp h with ⟨_, h⟩ | ⟨_, h⟩
  · cases h
  rcases ite_eq_iff.mp h with ⟨_, h⟩ | ⟨_, h⟩
  · cases h
  rcases ite_eq_iff.mp h with ⟨_, h⟩ | ⟨_, h⟩
  · cases h
  rcases ite_eq_iff.mp h with ⟨_, h⟩ | ⟨_, h⟩
  · exact mul_ne rfl _ _ _ _ h
  · exact div_ne rfl _ _ _ _ h

theorem isNumber_ofScientific (m : Nat) (small : Bool) (e : Nat) : IsNumber (Float.ofScientific m small e) := by
  unfold Float.ofScientific
  dsimp only
  split
  case isTrue hfast =>
    have hm := isFinite_toFloat hfast.1
    have hsize : e < Float.exactlyRepresentablePowersOfTen.size := Nat.lt_succ_of_le hfast.2
    obtain ⟨m', e', h', hfields, _⟩ := fields_powerOfTen hsize
    split
    · change unpack Format.binary64 (pack Format.binary64 (UnpackedFloat.div Format.binary64
        (fields m.toUInt64.toFloat) (fields Float.exactlyRepresentablePowersOfTen[e]))) ≠ _
      rw [hfields]
      exact unpack_pack_ne (div_ne hm _ _ _ _)
    · change unpack Format.binary64 (pack Format.binary64 (UnpackedFloat.mul Format.binary64
        (fields m.toUInt64.toFloat) (fields Float.exactlyRepresentablePowersOfTen[e]))) ≠ _
      rw [hfields]
      exact unpack_pack_ne (mul_ne hm _ _ _ _)
  case isFalse => exact unpack_pack_ne (ofScientific_ne m _)

theorem isNumber_ofInt (n : Int) : IsNumber (ofInt n) := by
  have h := isNumber_ofScientific n.natAbs false 0
  unfold ofInt
  dsimp only
  split
  · exact h.neg
  · exact h

theorem isNumber_infinity : IsNumber (1.0 / 0.0) := by
  have hnan : (fields (1.0 / 0.0)).isNaN = false := by decide +kernel
  intro h
  rw [h] at hnan
  cases hnan

/-! ### The smaller and the larger of two numbers -/

theorem least_eq (x y : Float) : least x y = x ∨ least x y = y := by
  unfold least
  split
  · exact .inr rfl
  · split
    · exact .inr rfl
    · exact .inl rfl

theorem greatest_eq (x y : Float) : greatest x y = x ∨ greatest x y = y := by
  unfold greatest
  split
  · exact .inr rfl
  · split
    · exact .inr rfl
    · exact .inl rfl

theorem IsNumber.least {x y : Float} (hx : IsNumber x) (hy : IsNumber y) : IsNumber (Floating.least x y) := by
  rcases least_eq x y with h | h <;> rwa [h]

theorem IsNumber.greatest {x y : Float} (hx : IsNumber x) (hy : IsNumber y) : IsNumber (Floating.greatest x y) := by
  rcases greatest_eq x y with h | h <;> rwa [h]

end GeoFilter.Floating

namespace GeoFilter

open Decimal (readFloat? readMagnitude? readUnsigned?)
open Floating (IsNumber)

/-! ### Texts of numbers -/

theorem readUnsigned_of_not_digit {c : Char} {cs : List Char} (hdigit : c.isDigit = false) (hpoint : c ≠ '.') :
    readUnsigned? (c :: cs) = none := by
  unfold readUnsigned?
  rw [List.takeWhile_cons_of_neg (by simp [hdigit]), List.dropWhile_cons_of_neg (by simp [hdigit])]
  dsimp only
  split
  case h_1 heq => exact absurd (List.cons.inj heq).1 hpoint
  case h_2 => rfl

theorem Numeral.map_toLower_ne {cs : List Char} (h : Numeral cs) {initial : Char} {letters : List Char}
    (hdigit : initial.isDigit = false) (hpoint : initial ≠ '.') : cs.map Char.toLower ≠ initial :: letters := by
  intro hword
  obtain ⟨d, hd⟩ := h.readable
  cases cs with
  | nil => cases hd
  | cons c cs =>
    obtain rfl : c.toLower = initial := (List.cons.inj hword).1
    rw [readUnsigned_of_not_digit] at hd
    · cases hd
    · refine Bool.eq_false_iff.mpr fun hdigit' => ?_
      have hlower : c.toLower = c := by
        unfold Char.isDigit at hdigit'
        have hhigh : c.toNat ≤ 57 := of_decide_eq_true (Bool.and_eq_true_iff.mp hdigit').2
        exact Text.toLower_of_not_capital (by omega)
      rw [hlower, hdigit'] at hdigit
      cases hdigit
    · rintro rfl
      exact hpoint rfl

theorem readMagnitude_ne {cs : List Char} (h : Numeral cs) : readMagnitude? cs ≠ some .notANumber := by
  unfold readMagnitude?
  dsimp only
  split
  · nofun
  · have hnan : cs.map Char.toLower ≠ "nan".toList := h.map_toLower_ne (rfl : 'n'.isDigit = false) (by decide)
    rw [if_neg hnan]
    cases readUnsigned? cs <;> nofun

theorem isNumber_of_magnitude (negative : Bool) {cs : List Char} (h : Numeral cs) {x : Float}
    (hx : (readMagnitude? cs).map (fun m =>
      let x := match m with
        | .finite d => d.toFloat
        | .infinite => 1.0 / 0.0
        | .notANumber => 0.0 / 0.0
      if negative then -x else x) = some x) : IsNumber x := by
  have hne := readMagnitude_ne h
  cases hm : readMagnitude? cs with
  | none =>
    rw [hm] at hx
    cases hx
  | some m =>
    rw [hm, Option.map_some, Option.some.injEq] at hx
    subst hx
    have hvalue : ∀ x : Float, IsNumber x → IsNumber (if negative = true then -x else x) := by
      intro x hx
      split
      · exact hx.neg
      · exact hx
    cases m with
    | finite d => exact hvalue _ (Floating.isNumber_ofScientific _ _ _)
    | infinite => exact hvalue _ Floating.isNumber_infinity
    | notANumber => exact absurd hm hne

theorem Numeral.isNumber {text : String} (h : Numeral text.toList) {x : Float} (hx : readFloat? text = some x) :
    IsNumber x := by
  rw [readFloat?, h.unsigned] at hx
  exact isNumber_of_magnitude false h hx

theorem Numeral.readFloat_minus_isSome {text : String} (h : Numeral text.toList) :
    ∃ x, readFloat? ("-" ++ text) = some x := by
  obtain ⟨x, hx⟩ := h.readFloat_isSome
  rw [readFloat?, h.unsigned] at hx
  obtain ⟨m, hm, _⟩ := Option.map_eq_some_iff.mp hx
  rw [readFloat?, Numeral.toList_minus]
  exact ⟨_, congrArg (Option.map _) hm⟩

theorem Numeral.isNumber_minus {text : String} (h : Numeral text.toList) {x : Float}
    (hx : readFloat? ("-" ++ text) = some x) : IsNumber x := by
  rw [readFloat?, Numeral.toList_minus] at hx
  exact isNumber_of_magnitude true h hx

theorem Numeral.isNumber_value {text : String} (h : Numeral text.toList) {v : Number}
    (hv : Number.readIntegral? text = some v) :
    IsNumber v.toFloat ∧ ∀ v', v.negate? = some v' → IsNumber v'.toFloat := by
  unfold Number.readIntegral? at hv
  split at hv
  · cases hv
    refine ⟨Floating.isNumber_ofInt _, fun v' hv' => ?_⟩
    obtain ⟨k, _, rfl⟩ := Option.map_eq_some_iff.mp hv'
    exact Floating.isNumber_ofInt _
  · split at hv
    · cases hv
      refine ⟨Floating.isNumber_ofInt _, fun v' hv' => ?_⟩
      obtain ⟨k, _, rfl⟩ := Option.map_eq_some_iff.mp hv'
      exact Floating.isNumber_ofInt _
    · obtain ⟨x, hx, rfl⟩ := Option.map_eq_some_iff.mp hv
      refine ⟨h.isNumber hx, fun v' hv' => ?_⟩
      cases hv'
      exact (h.isNumber hx).neg

end GeoFilter
