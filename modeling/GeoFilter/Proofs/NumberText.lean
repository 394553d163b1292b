import GeoFilter.Proofs.Keyword
import GeoFilter.Proofs.Spelling

/-!
# Texts of numbers

The text of a number without its sign in its parts: digits, a fraction and an exponent.  It is cut as one number and
read as the decimal that its parts write.
-/

namespace GeoFilter

open Decimal (splitSign digitsValue readDigits? readExponent? readIntChars? readUnsigned? readInt? readInt32?
  readInt64? int32? int64? readFloat? readMagnitude?)
open Scan (IsFraction IsExponent)

/-- The text of a number without its sign. -/
structure NumberText where
  whole : List Char
  fraction : List Char
  exponent : List Char
  nonempty : whole ≠ []
  digits : ∀ d ∈ whole, d.isDigit = true
  isFraction : IsFraction fraction
  isExponent : IsExponent exponent

namespace NumberText

def chars (t : NumberText) : List Char := t.whole ++ t.fraction ++ t.exponent

def text (t : NumberText) : String := String.ofList t.chars

def decimal (t : NumberText) : Decimal :=
  ⟨digitsValue (t.whole ++ t.fraction.tail), (readExponent? t.exponent).getD 0 - t.fraction.tail.length⟩

def IsWhole (t : NumberText) : Prop := t.fraction = [] ∧ t.exponent = []

variable (t : NumberText)

theorem exists_digit : ∃ d ds, t.chars = d :: ds ∧ d.isDigit = true := by
  obtain ⟨d, ds, hwhole⟩ := List.exists_cons_of_ne_nil t.nonempty
  refine ⟨d, ds ++ t.fraction ++ t.exponent, ?_, t.digits d (by rw [hwhole]; exact List.mem_cons_self)⟩
  rw [chars, hwhole]
  rfl

theorem spells (long : Bool) : Scan.Spells (t.chars ++ if long then ['L'] else []) [.number t.text long]
    Scan.EndsNumber :=
  .number long t.nonempty t.digits t.isFraction t.isExponent

theorem numeral : Numeral t.text.toList := by
  rw [text, String.toList_ofList]
  exact Scan.numeral_of_parts t.digits t.isFraction t.isExponent fun hnil => absurd hnil t.nonempty

/-! ### Floating-point numbers -/

theorem readUnsigned_chars : readUnsigned? t.chars = some t.decimal := by
  obtain ⟨e, he⟩ := Scan.readExponent_isSome t.isExponent
  have hne : t.whole ++ t.fraction.tail ≠ [] := List.append_ne_nil_of_left_ne_nil t.nonempty _
  rw [chars, Scan.readUnsigned_of_parts t.digits t.isFraction t.isExponent hne he, decimal, he]
  rfl

theorem readFloat_text : readFloat? t.text = some t.decimal.toFloat := by
  obtain ⟨d, ds, hchars, hd⟩ := t.exists_digit
  have hsplit : splitSign t.chars = (false, t.chars) := by
    rw [chars, List.append_assoc]
    exact Scan.splitSign_digits t.nonempty t.digits _
  have hlower : d.toLower.isDigit = true := by
    have hrange := Scan.toNat_of_isDigit hd
    rw [Text.toLower_of_not_capital (by omega)]
    exact hd
  have hwords : ∀ c cs, c.isDigit = false → t.chars.map Char.toLower ≠ c :: cs := by
    intro c cs hc heq
    rw [hchars, List.map_cons] at heq
    injection heq with heq
    rw [heq, hc] at hlower
    cases hlower
  have hmagnitude : readMagnitude? t.chars = some (.finite t.decimal) := by
    unfold readMagnitude?
    dsimp only
    rw [if_neg, if_neg, t.readUnsigned_chars]
    · rfl
    · exact hwords 'n' ['a', 'n'] (by decide)
    · exact not_or.mpr ⟨hwords 'i' ['n', 'f'] (by decide), hwords 'i' _ (by decide)⟩
  rw [readFloat?, text, String.toList_ofList, hsplit]
  dsimp only
  rw [hmagnitude]
  rfl

theorem isFloatingText_text (h : ¬t.IsWhole) : Grammar.isFloatingText t.text = true := by
  have hmark : ∀ c, (c = '.' ∨ c = 'e' ∨ c = 'E') → c ∈ t.chars → Grammar.isFloatingText t.text = true := by
    intro c hc hmem
    refine List.any_eq_true.mpr ⟨c, ?_, ?_⟩
    · rwa [text, String.toList_ofList]
    · rcases hc with rfl | rfl | rfl <;> rfl
  rcases t.isFraction with hfraction | ⟨ds, hfraction, _⟩
  · rcases t.isExponent with hexponent | ⟨mark, signs, ds, hexponent, hisMark, _⟩
    · exact absurd ⟨hfraction, hexponent⟩ h
    · exact hmark mark (.inr hisMark) (by simp [chars, hexponent])
  · exact hmark '.' (.inl rfl) (by simp [chars, hfraction])

theorem readLiteral_of_not_isWhole (h : ¬t.IsWhole) :
    Number.readLiteral? t.text = some (.double t.decimal.toFloat) := by
  rw [Number.readLiteral?, if_pos (t.isFloatingText_text h), Number.readFloating?, t.readFloat_text]
  rfl

/-! ### Integers -/

variable {t}

theorem decimal_of_isWhole (h : t.IsWhole) : t.decimal = ⟨digitsValue t.whole, 0⟩ := by
  rw [decimal, h.1, h.2, List.tail_nil, List.append_nil]
  rfl

theorem readInt_text (h : t.IsWhole) : readInt? t.text = some (digitsValue t.whole : Int) := by
  have hchars : t.chars = t.whole := by rw [chars, h.1, h.2, List.append_nil, List.append_nil]
  have hsplit := Scan.splitSign_digits t.nonempty t.digits []
  rw [List.append_nil] at hsplit
  rw [readInt?, text, String.toList_ofList, hchars, readIntChars?, hsplit]
  dsimp only
  rw [Scan.readDigits_isSome t.nonempty t.digits]
  rfl

theorem toFloat_ofNat (n : Nat) : Floating.ofInt n = (⟨n, 0⟩ : Decimal).toFloat := by
  unfold Floating.ofInt
  dsimp only
  rw [if_neg (by omega)]
  rfl

theorem toFloat_negOfNat {n : Nat} (h : 0 < n) : Floating.ofInt (-n) = -(⟨n, 0⟩ : Decimal).toFloat := by
  unfold Floating.ofInt
  dsimp only
  rw [if_pos (by omega), Int.natAbs_neg]
  rfl

variable (t)

/-- A text that writes a number other than zero is read as a number with that value, and so is its opposite,
whatever kind the number has. -/
theorem readLiteral_text (h : 0 < t.decimal.digits) :
    ∃ v w, Number.readLiteral? t.text = some v ∧ v.toFloat = t.decimal.toFloat ∧
      v.negate? = some w ∧ w.toFloat = -t.decimal.toFloat := by
  by_cases hwhole : t.IsWhole
  · have hdecimal := t.decimal_of_isWhole hwhole
    have hint := t.readInt_text hwhole
    rw [hdecimal] at h ⊢
    set n := digitsValue t.whole with hn
    rw [Number.readLiteral_eq, Number.readIntegral?, readInt32?, readInt64?, hint, Option.bind_some, Option.bind_some]
    unfold int32?
    split
    case h_1 k hk =>
      obtain ⟨hbounds, rfl⟩ := Numeral.int32_eq_some hk
      have hvalue : (Int32.ofInt (n : Int)).toInt = n := Numeral.toInt_int32 hbounds.1 hbounds.2
      have hopposite : (Int32.ofInt (-(n : Int))).toInt = -n := Numeral.toInt_int32 (by omega) (by omega)
      refine ⟨_, .integer (Int32.ofInt (-n)), rfl, ?_, ?_, ?_⟩
      · rw [Number.toFloat, hvalue, toFloat_ofNat]
      · rw [Number.negate?, hvalue, Numeral.int32_ofInt (by omega) (by omega)]
        rfl
      · rw [Number.toFloat, hopposite, toFloat_negOfNat h]
    case h_2 =>
      unfold int64?
      split
      case h_1 k hk =>
        split at hk
        case isFalse => cases hk
        case isTrue hbounds =>
          cases hk
          have hvalue : (Int64.ofInt (n : Int)).toInt = n := Numeral.toInt_int64 hbounds.1 hbounds.2
          have hopposite : (Int64.ofInt (-(n : Int))).toInt = -n := Numeral.toInt_int64 (by omega) (by omega)
          refine ⟨_, .long (Int64.ofInt (-n)), rfl, ?_, ?_, ?_⟩
          · rw [Number.toFloat, hvalue, toFloat_ofNat]
          · rw [Number.negate?, hvalue, int64?, if_pos (by omega)]
            rfl
          · rw [Number.toFloat, hopposite, toFloat_negOfNat h]
      case h_2 =>
        refine ⟨.double t.decimal.toFloat, .double (-t.decimal.toFloat), ?_, ?_, rfl, ?_⟩
        · rw [t.readFloat_text]
          rfl
        · rw [hdecimal]
          rfl
        · rw [hdecimal]
          rfl
  · exact ⟨.double t.decimal.toFloat, .double (-t.decimal.toFloat), t.readLiteral_of_not_isWhole hwhole, rfl, rfl, rfl⟩

end NumberText

end GeoFilter
