import GeoFilter.Proofs.Rounding.Layout
import GeoFilter.Proofs.Derivation

/-!
# Shown numbers are read again

The text of a number in a filter, and of an ordinate in a geometry, is that of a signed number with an equal value.
-/

namespace GeoFilter

open Scan (Spells EndsNumber)
open Floating (fields)
open Float.Model (UnpackedFloat)

/-! ### Signs -/

def minusChars (negative : Bool) : List Char := if negative then ['-'] else []

/-- The tokens of a text of a number with its sign. -/
def NumberText.tokens (t : NumberText) (negative : Bool) : List Token :=
  if negative then [.sign .minus, .number t.text false] else [.number t.text false]

theorem NumberText.spells_signed (t : NumberText) (negative : Bool) :
    Spells (minusChars negative ++ t.chars) (t.tokens negative) EndsNumber := by
  have hspells := t.spells false
  rw [if_neg Bool.false_ne_true, List.append_nil] at hspells
  obtain ⟨d, ds, hchars, hd⟩ := t.exists_digit
  cases negative with
  | false => exact hspells
  | true =>
    refine Spells.minus.append hspells fun rest _ => ⟨d, ds ++ rest, ?_, hd⟩
    rw [hchars]
    rfl

/-- The signed number that a text of a number writes, if it writes one. -/
def NumberText.signed (t : NumberText) (negative : Bool) {v : Number}
    (h : Number.readSigned? negative t.text = some v) : SignedNumber :=
  ⟨negative, t.text, false, v, h⟩

theorem NumberText.tokens_signed (t : NumberText) (negative : Bool) {v : Number}
    (h : Number.readSigned? negative t.text = some v) : (t.signed negative h).tokens = t.tokens negative := rfl

/-! ### Floating-point numbers -/

def isNegative : UnpackedFloat.Sign → Bool
  | .positive => false
  | .negative => true

theorem signChars_eq (sign : UnpackedFloat.Sign) : Decimal.signChars sign = minusChars (isNegative sign) := by
  cases sign <;> rfl

theorem fields_of_isFinite {x : Float} (h : x.isFinite = true) :
    (∃ sign, fields x = .zero sign) ∨ ∃ sign m e hm, fields x = .finite sign m e hm := by
  have hfinite : (fields x).isFinite = true := h
  cases hfields : fields x with
  | zero sign => exact .inl ⟨sign, rfl⟩
  | finite sign m e hm => exact .inr ⟨sign, m, e, hm, rfl⟩
  | infinity sign =>
    rw [hfields] at hfinite
    cases hfinite
  | notANumber =>
    rw [hfields] at hfinite
    cases hfinite

/-- The number with the fields of a decimal and the sign of another number is equal to that one. -/
theorem beq_of_fields {x y : Float} {sign : UnpackedFloat.Sign} {m : Nat} {e : Int} {hm : 0 < m}
    (hx : fields x = .finite sign m e hm) (hy : fields y = .finite .positive m e hm) :
    ((if isNegative sign then -y else y) == x) = true := by
  cases sign with
  | positive => exact Floating.beq_of_fields_finite hy hx
  | negative => exact Floating.beq_of_fields_finite (Floating.fields_neg_finite hy) hx

theorem exists_write (layout : Decimal.Layout) (hend : layout.wholeEnd = ['.', '0'] ∨ layout.wholeEnd = []) {x : Float}
    {sign : UnpackedFloat.Sign} {m : Nat} {e : Int} {hm : 0 < m} (hx : fields x = .finite sign m e hm) :
    ∃ t : NumberText,
      (layout.write .binary64 (fields x)).toList = minusChars (isNegative sign) ++ t.chars ∧
        fields t.decimal.toFloat = .finite .positive m e hm ∧ 0 < t.decimal.digits ∧
        (layout.wholeEnd ≠ [] → ¬t.IsWhole) := by
  have hc := Floating.canonical_of_fields hx
  have hrounds := Decimal.roundsTo_shortest hc
  obtain ⟨t, ht, hfloating⟩ := Decimal.exists_numberText layout hend (Decimal.shortest m e (Decimal.isNarrow m e))
  rw [← ht.value] at hrounds
  refine ⟨t, ?_, Decimal.fields_toFloat hc hrounds, Decimal.digits_pos_of_roundsTo hc hrounds, hfloating⟩
  unfold Decimal.Layout.write
  rw [hx, String.toList_ofList]
  dsimp only
  rw [signChars_eq, ht.chars]
  rfl

theorem exists_write_zero (layout : Decimal.Layout) (hend : layout.wholeEnd = ['.', '0'] ∨ layout.wholeEnd = [])
    {x : Float} {sign : UnpackedFloat.Sign} (hx : fields x = .zero sign) :
    ∃ t : NumberText,
      (layout.write .binary64 (fields x)).toList = minusChars (isNegative sign) ++ t.chars ∧
        t.whole = ['0'] ∧ t.fraction = layout.wholeEnd ∧ t.exponent = [] := by
  have hfraction : Scan.IsFraction layout.wholeEnd := by
    rcases hend with h | h
    · exact .inr ⟨['0'], h, List.all_eq_true.mp rfl⟩
    · exact .inl h
  refine ⟨⟨['0'], layout.wholeEnd, [], List.cons_ne_nil _ _, List.all_eq_true.mp rfl, hfraction, .inl rfl⟩, ?_, rfl, rfl, rfl⟩
  unfold Decimal.Layout.write
  rw [hx, String.toList_ofList, NumberText.chars, List.append_nil]
  dsimp only
  rw [signChars_eq]
  rfl

/-- A finite number as filters show it is read as an equal number of the same kind. -/
theorem exists_signedNumber_of_float {x : Float} (h : x.isFinite = true) :
    ∃ n : SignedNumber, Spells (Decimal.showFloat x).toList n.tokens EndsNumber ∧
      (n.value == .double x) = true := by
  have hdouble : ∀ (t : NumberText) (negative : Bool), ¬t.IsWhole → Number.readSigned? negative t.text =
      some (.double (if negative then -t.decimal.toFloat else t.decimal.toFloat)) := by
    intro t negative ht
    rw [Number.readSigned?, t.readLiteral_of_not_isWhole ht]
    cases negative <;> rfl
  rcases fields_of_isFinite h with ⟨sign, hx⟩ | ⟨sign, m, e, hm, hx⟩
  · obtain ⟨t, hchars, hwhole, hfraction, hexponent⟩ := exists_write_zero .general (.inl rfl) hx
    have ht : ¬t.IsWhole := fun ht => absurd (hfraction.symm.trans ht.1) (List.cons_ne_nil _ _)
    have hdecimal : t.decimal = ⟨0, -1⟩ := by
      rw [NumberText.decimal, hwhole, hfraction, hexponent]
      rfl
    refine ⟨t.signed (isNegative sign) (hdouble t _ ht), ?_, ?_⟩
    · rw [Decimal.showFloat, hchars, t.tokens_signed]
      exact t.spells_signed _
    · have hzero : fields (⟨0, -1⟩ : Decimal).toFloat = .zero .positive := rfl
      change ((if isNegative sign then -t.decimal.toFloat else t.decimal.toFloat) == x) = true
      rw [hdecimal]
      split
      · exact Floating.beq_of_fields_zero (Floating.fields_neg_zero hzero) hx
      · exact Floating.beq_of_fields_zero hzero hx
  · obtain ⟨t, hchars, hfields, _, hfloating⟩ := exists_write .general (.inl rfl) hx
    refine ⟨t.signed (isNegative sign) (hdouble t _ (hfloating (List.cons_ne_nil _ _))), ?_, beq_of_fields hx hfields⟩
    rw [Decimal.showFloat, hchars, t.tokens_signed]
    exact t.spells_signed _

/-- A finite ordinate as geometries show it is read as an equal number, perhaps as an integer. -/
theorem exists_signedNumber_of_ordinate {x : Float} (h : x.isFinite = true) :
    ∃ n : SignedNumber, Spells (Decimal.showOrdinate x).toList n.tokens EndsNumber ∧
      (n.value.toFloat == x) = true := by
  rcases fields_of_isFinite h with ⟨sign, hx⟩ | ⟨sign, m, e, hm, hx⟩
  · obtain ⟨t, hchars, hwhole, hfraction, hexponent⟩ := exists_write_zero .plain (.inr rfl) hx
    have htext : t.text = "0" := by
      rw [NumberText.text, NumberText.chars, hwhole, hfraction, hexponent]
      rfl
    have hread : Number.readSigned? (isNegative sign) t.text = some (.integer 0) := by
      rw [htext]
      cases sign <;> rfl
    refine ⟨t.signed (isNegative sign) hread, ?_, ?_⟩
    · rw [Decimal.showOrdinate, hchars, t.tokens_signed]
      exact t.spells_signed _
    · have hzero : fields (Floating.ofInt 0) = .zero .positive := rfl
      exact Floating.beq_of_fields_zero hzero hx
  · obtain ⟨t, hchars, hfields, hpos, _⟩ := exists_write .plain (.inr rfl) hx
    obtain ⟨v, w, hv, hvalue, hw, hopposite⟩ := t.readLiteral_text hpos
    have hread : Number.readSigned? (isNegative sign) t.text = some (if isNegative sign then w else v) := by
      rw [Number.readSigned?, hv]
      cases isNegative sign with
      | false => rfl
      | true => exact hw
    refine ⟨t.signed (isNegative sign) hread, ?_, ?_⟩
    · rw [Decimal.showOrdinate, hchars, t.tokens_signed]
      exact t.spells_signed _
    · have hfloat : (if isNegative sign then w else v).toFloat =
          if isNegative sign then -t.decimal.toFloat else t.decimal.toFloat := by
        split
        · exact hopposite
        · exact hvalue
      change ((if isNegative sign then w else v).toFloat == x) = true
      rw [hfloat]
      exact beq_of_fields hx hfields

/-! ### Integers -/

def NumberText.ofNat (k : Nat) : NumberText :=
  ⟨Nat.toDigits 10 k, [], [], Nat.toDigits_ne_nil, Decimal.isDigit_toDigits k, .inl rfl, .inl rfl⟩

theorem NumberText.readInt_ofNat (k : Nat) : Decimal.readInt? (ofNat k).text = some (k : Int) := by
  rw [readInt_text ⟨rfl, rfl⟩, ofNat, Decimal.digitsValue_toDigits]

theorem toList_toString (i : Int) :
    (toString i).toList = minusChars (i < 0) ++ (NumberText.ofNat i.natAbs).chars := by
  have hchars : ∀ k, (NumberText.ofNat k).chars = Nat.toDigits 10 k := fun k => by
    rw [NumberText.chars, NumberText.ofNat, List.append_nil, List.append_nil]
  rw [hchars]
  cases i with
  | ofNat k => exact Nat.toList_repr
  | negSucc k =>
    have htext : toString (Int.negSucc k) = "-" ++ (k + 1).repr := rfl
    have hneg : minusChars (Int.negSucc k < 0) = ['-'] := if_pos (decide_eq_true (Int.negSucc_lt_zero k))
    rw [htext, String.toList_append, Nat.toList_repr, hneg]
    rfl

/-- The numbers that literals are: integers of the narrowest kind that holds them and their opposite, and finite
numbers in double precision. -/
def Number.IsLiteral : Number → Prop
  | .integer n => -2147483648 < n.toInt
  | .long n => -9223372036854775808 < n.toInt ∧ 2147483648 ≤ n.toInt.natAbs
  | .float _ => False
  | .double x => x.isFinite = true

theorem exists_signedNumber_of_int {v : Number} {i : Int} (htext : v.toText = toString i)
    (hread : Number.readSigned? (i < 0) (NumberText.ofNat i.natAbs).text = some v) :
    ∃ n : SignedNumber, Spells v.toText.toList n.tokens EndsNumber ∧ n.value = v := by
  refine ⟨(NumberText.ofNat i.natAbs).signed _ hread, ?_, rfl⟩
  rw [htext, toList_toString, NumberText.tokens_signed]
  exact NumberText.spells_signed _ _

/-- The text of a literal number is that of a signed number with an equal value. -/
theorem Number.IsLiteral.exists_signedNumber {v : Number} (h : v.IsLiteral) :
    ∃ n : SignedNumber, Spells v.toText.toList n.tokens EndsNumber ∧ (n.value == v) = true := by
  cases v with
  | integer n =>
    have hlow : -2147483648 < n.toInt := h
    have hhigh := n.toInt_le
    change n.toInt ≤ 2147483647 at hhigh
    have hn : Int32.ofInt n.toInt = n := Int32.ofInt_toInt n
    have hread : Number.readSigned? (n.toInt < 0) (NumberText.ofNat n.toInt.natAbs).text = some (.integer n) := by
      have hunsigned : Number.readLiteral? (NumberText.ofNat n.toInt.natAbs).text =
          some (.integer (Int32.ofInt n.toInt.natAbs)) := by
        rw [Number.readLiteral_eq, Number.readIntegral?, Decimal.readInt32?, NumberText.readInt_ofNat,
          Option.bind_some, Numeral.int32_ofInt (by omega) (by omega)]
      rw [Number.readSigned?, hunsigned]
      by_cases hneg : n.toInt < 0
      · rw [if_pos (decide_eq_true hneg), Option.bind_some, Number.negate?, Numeral.toInt_int32 (by omega) (by omega),
          Numeral.int32_ofInt (by omega) (by omega)]
        have hopposite : -(n.toInt.natAbs : Int) = n.toInt := by omega
        rw [hopposite, hn]
        rfl
      · have hsame : (n.toInt.natAbs : Int) = n.toInt := by omega
        rw [if_neg (by simpa using hneg), hsame, hn]
    obtain ⟨s, hs, hvalue⟩ := exists_signedNumber_of_int rfl hread
    exact ⟨s, hs, by rw [hvalue]; exact beq_self_eq_true n⟩
  | long n =>
    obtain ⟨hlow, hlarge⟩ := h
    have hhigh := n.toInt_le
    change n.toInt ≤ 9223372036854775807 at hhigh
    have hn : Int64.ofInt n.toInt = n := Int64.ofInt_toInt n
    have hread : Number.readSigned? (n.toInt < 0) (NumberText.ofNat n.toInt.natAbs).text = some (.long n) := by
      have hunsigned : Number.readLiteral? (NumberText.ofNat n.toInt.natAbs).text =
          some (.long (Int64.ofInt n.toInt.natAbs)) := by
        have h32 : Decimal.int32? n.toInt.natAbs = none := if_neg (by omega)
        have h64 : Decimal.int64? n.toInt.natAbs = some (Int64.ofInt n.toInt.natAbs) := if_pos (by omega)
        rw [Number.readLiteral_eq, Number.readIntegral?, Decimal.readInt32?, Decimal.readInt64?,
          NumberText.readInt_ofNat, Option.bind_some, Option.bind_some, h32, h64]
      rw [Number.readSigned?, hunsigned]
      by_cases hneg : n.toInt < 0
      · have hopposite : -(n.toInt.natAbs : Int) = n.toInt := by omega
        have h64 : Decimal.int64? n.toInt = some n := by rw [Decimal.int64?, if_pos (by omega), hn]
        rw [if_pos (decide_eq_true hneg), Option.bind_some, Number.negate?, Numeral.toInt_int64 (by omega) (by omega),
          hopposite, h64]
        rfl
      · have hsame : (n.toInt.natAbs : Int) = n.toInt := by omega
        rw [if_neg (by simpa using hneg), hsame, hn]
    obtain ⟨s, hs, hvalue⟩ := exists_signedNumber_of_int rfl hread
    exact ⟨s, hs, by rw [hvalue]; exact beq_self_eq_true n⟩
  | float x => exact h.elim
  | double x => exact exists_signedNumber_of_float h

/-! ### What literals are -/

theorem isFinite_neg {x : Float} (h : x.isFinite = true) : (-x).isFinite = true := by
  change (fields (-x)).isFinite = true
  rcases fields_of_isFinite h with ⟨sign, hx⟩ | ⟨sign, m, e, hm, hx⟩
  · rw [Floating.fields_neg_zero hx]
    rfl
  · rw [Floating.fields_neg_finite hx]
    rfl

theorem beq_self_of_isFinite {x : Float} (h : x.isFinite = true) : (x == x) = true := by
  rcases fields_of_isFinite h with ⟨sign, hx⟩ | ⟨sign, m, e, hm, hx⟩
  · exact Floating.beq_of_fields_zero hx hx
  · exact Floating.beq_of_fields_finite hx hx

/-- Whether a token is no number that is too large for double precision. -/
def Token.IsFinite : Token → Prop
  | .number text _ => ∀ x, Decimal.readFloat? text = some x → x.isFinite = true
  | _ => True

instance (token : Token) : Decidable token.IsFinite :=
  match token with
  | .number text _ => inferInstanceAs (Decidable (∀ x ∈ Decimal.readFloat? text, x.isFinite = true))
  | .word .. | .quoted _ | .sign _ | .other _ => .isTrue trivial

/-- A signed number in a statement is a literal number, if it is finite in case that it is a floating-point number. -/
theorem SignedNumber.isLiteral_of_double (n : SignedNumber) (hnumeral : Numeral n.text.toList)
    (hfinite : ∀ x, n.value = .double x → x.isFinite = true) : n.value.IsLiteral := by
  obtain ⟨negative, text, long, value, hreads⟩ := n
  dsimp only at hnumeral hfinite ⊢
  have hopposite : ∀ v : Number, Number.readLiteral? text = some v → value = v ∨ v.negate? = some value →
      value.IsLiteral := by
    intro v hv hvalue
    rw [Number.readLiteral_eq, Number.readIntegral?, Decimal.readInt32?, Decimal.readInt64?, hnumeral.readInt_eq] at hv
    have hfloat : (Decimal.readFloat? text).map Number.double = some v → value.IsLiteral := by
      intro hmap
      obtain ⟨x, _, rfl⟩ := Option.map_eq_some_iff.mp hmap
      rcases hvalue with rfl | hvalue
      · exact hfinite x rfl
      · cases hvalue
        exact hfinite (-x) rfl
    cases hdigits : Decimal.readDigits? text.toList with
    | none =>
      rw [hdigits] at hv
      exact hfloat hv
    | some k =>
      rw [hdigits, Option.map_some, Option.bind_some, Option.bind_some] at hv
      unfold Decimal.int32? at hv
      split at hv
      case h_1 k' hk' =>
        obtain ⟨hbounds, rfl⟩ := Numeral.int32_eq_some hk'
        cases hv
        have hk : (Int32.ofInt (k : Int)).toInt = k := Numeral.toInt_int32 hbounds.1 hbounds.2
        rcases hvalue with rfl | hvalue
        · rw [Number.IsLiteral, hk]
          omega
        · rw [Number.negate?, hk, Numeral.int32_ofInt (by omega) (by omega)] at hvalue
          cases hvalue
          change -2147483648 < (Int32.ofInt (-(k : Int))).toInt
          rw [Numeral.toInt_int32 (by omega) (by omega)]
          omega
      case h_2 hnone =>
        unfold Decimal.int64? at hv
        split at hv
        case h_1 k' hk' =>
          split at hk'
          case isFalse => cases hk'
          case isTrue hbounds =>
            cases hk'
            cases hv
            have hlarge : ¬(k : Int) ≤ 2147483647 := by
              intro hle
              rw [if_pos ⟨by omega, hle⟩] at hnone
              cases hnone
            have hk : (Int64.ofInt (k : Int)).toInt = k := Numeral.toInt_int64 hbounds.1 hbounds.2
            rcases hvalue with rfl | hvalue
            · exact ⟨by rw [hk]; omega, by rw [hk]; omega⟩
            · have h64 : Decimal.int64? (-(k : Int)) = some (Int64.ofInt (-k)) := if_pos (by omega)
              rw [Number.negate?, hk, h64] at hvalue
              cases hvalue
              have hnegated : (Int64.ofInt (-(k : Int))).toInt = -k := Numeral.toInt_int64 (by omega) (by omega)
              exact ⟨by rw [hnegated]; omega, by rw [hnegated]; omega⟩
        case h_2 => exact hfloat hv
  rw [Number.readSigned?] at hreads
  split at hreads
  case isTrue =>
    obtain ⟨v, hv, hw⟩ := Option.bind_eq_some_iff.mp hreads
    exact hopposite v hv (.inr hw)
  case isFalse => exact hopposite value hreads (.inl rfl)

theorem exists_numberText_of_digits {text : String} {k : Nat} (h : Decimal.readDigits? text.toList = some k) :
    ∃ t : NumberText, t.text = text ∧ t.IsWhole ∧ Decimal.digitsValue t.whole = k := by
  unfold Decimal.readDigits? at h
  split at h
  case isTrue hdigits =>
    cases h
    have hall : ∀ d ∈ text.toList, d.isDigit = true := List.all_eq_true.mp hdigits.2
    refine ⟨⟨text.toList, [], [], hdigits.1, hall, .inl rfl, .inl rfl⟩, ?_, ⟨rfl, rfl⟩, rfl⟩
    rw [NumberText.text, NumberText.chars, List.append_nil, List.append_nil, String.ofList_toList]
  case isFalse => cases h

/-- A signed number in a statement is finite in double precision, if its text without the sign is. -/
theorem SignedNumber.isFinite_toFloat (n : SignedNumber) (hnumeral : Numeral n.text.toList)
    (hfinite : (Token.number n.text n.long).IsFinite) : n.value.toFloat.isFinite = true := by
  obtain ⟨negative, text, long, value, hreads⟩ := n
  dsimp only at hnumeral hfinite ⊢
  have hsigned : ∀ v : Number, Number.readLiteral? text = some v → v.toFloat.isFinite = true →
      (∀ w, v.negate? = some w → w.toFloat.isFinite = true) → value.toFloat.isFinite = true := by
    intro v hv hvalue hopposite
    rw [Number.readSigned?, hv, Option.bind_some] at hreads
    split at hreads
    · exact hopposite value hreads
    · cases hreads
      exact hvalue
  cases hdigits : Decimal.readDigits? text.toList with
  | none =>
    obtain ⟨x, hx⟩ := hnumeral.readFloat_isSome
    have hread : Number.readLiteral? text = some (.double x) := by
      rw [Number.readLiteral_eq, Number.readIntegral?, Decimal.readInt32?, Decimal.readInt64?, hnumeral.readInt_eq,
        hdigits, hx]
      rfl
    refine hsigned _ hread (hfinite x hx) fun w hw => ?_
    cases hw
    exact isFinite_neg (hfinite x hx)
  | some k =>
    obtain ⟨t, rfl, hwhole, rfl⟩ := exists_numberText_of_digits hdigits
    have hx := hfinite _ t.readFloat_text
    by_cases hzero : Decimal.digitsValue t.whole = 0
    · have hread : Number.readLiteral? t.text = some (.integer 0) := by
        rw [Number.readLiteral_eq, Number.readIntegral?, Decimal.readInt32?, t.readInt_text hwhole, hzero]
        rfl
      refine hsigned _ hread rfl fun w hw => ?_
      cases hw
      rfl
    · have hpos : 0 < t.decimal.digits := by
        rw [t.decimal_of_isWhole hwhole]
        exact Nat.pos_of_ne_zero hzero
      obtain ⟨v, w, hv, hvalue, hw, hopposite⟩ := t.readLiteral_text hpos
      refine hsigned v hv (hvalue ▸ hx) fun w' hw' => ?_
      cases hw.symm.trans hw'
      exact hopposite ▸ isFinite_neg hx

theorem SignedNumber.isLiteral (n : SignedNumber) (hnumeral : Numeral n.text.toList)
    (hfinite : (Token.number n.text n.long).IsFinite) : n.value.IsLiteral := by
  refine n.isLiteral_of_double hnumeral fun x hx => ?_
  have hvalue := n.isFinite_toFloat hnumeral hfinite
  rw [hx] at hvalue
  exact hvalue

end GeoFilter
