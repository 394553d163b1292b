import GeoFilter.Proofs.NumberOrder
import GeoFilter.Proofs.Rounding.IsNumber

/-!
# The kinds of numbers

A numeral with a fraction or an exponent writes a number in double precision.  Any other numeral writes an integer, of
the narrowest kind that holds it, and is rounded to double precision only if none does.  A minus in front leaves the
kind and negates the value: the integer kinds reach further down than up, so there always is an opposite.  As a text
that is read in double precision at once, a numeral with its sign comes to the same number.
-/

namespace GeoFilter

open Decimal (digitsValue int32? int64? readDigits? readExponent? readFloat? readInt? readInt32? readInt64? readMagnitude?
  readUnsigned?)

/-- The kinds of numbers. -/
inductive NumberKind where
  | integer
  | long
  | float
  | double
  deriving DecidableEq, Repr

def Number.kind : Number → NumberKind
  | .integer _ => .integer
  | .long _ => .long
  | .float _ => .float
  | .double _ => .double

/-- The kind of the number that a numeral writes. -/
def NumberKind.ofNumeral (text : String) : NumberKind :=
  if Grammar.isFloatingText text then .double
  else if digitsValue text.toList ≤ 2 ^ 31 - 1 then .integer
  else if digitsValue text.toList ≤ 2 ^ 63 - 1 then .long
  else .double

/-- Whether a number is what a numeral writes: its kind is that of the numeral, and it has the very value of the digits
unless it is in double precision. -/
structure Number.IsWritten (text : String) (v : Number) : Prop where
  kind : v.kind = .ofNumeral text
  exact : v.kind ≠ .double → v.toInt? = some (digitsValue text.toList : Int)
  rounded : v.kind = .double → ∃ x, readFloat? text = some x ∧ v = .double x

/-- Whether a number is another one with the opposite sign, of the same kind and exactly. -/
structure Number.IsOpposite (v w : Number) : Prop where
  kind : w.kind = v.kind
  exact : ∀ n, v.toInt? = some n → w.toInt? = some (-n)
  rounded : ∀ x, v = .double x → w = .double (-x)
  value : ∀ q, v.value? = some q → w.value? = some (-q)

namespace Numeral

variable {text : String} (h : Numeral text.toList)

include h

/-! ### Texts without a fraction or an exponent -/

theorem all_digits (hwhole : Grammar.isFloatingText text = false) : ∀ c ∈ text.toList, c.isDigit = true := by
  have hmark : ∀ c ∈ text.toList, c ≠ '.' ∧ c ≠ 'e' ∧ c ≠ 'E' := by
    intro c hc
    simpa [not_or, and_assoc] using List.any_eq_false.mp hwhole c hc
  obtain ⟨d, hd⟩ := h.readable
  cases hdrop : text.toList.dropWhile Char.isDigit with
  | nil => exact List.dropWhile_eq_nil_iff.mp hdrop
  | cons c cs =>
    have hc : c ∈ text.toList := by
      rw [← List.takeWhile_append_dropWhile (p := Char.isDigit) (l := text.toList), hdrop]
      exact List.mem_append_right _ List.mem_cons_self
    obtain ⟨hpoint, hexponent, hexponent'⟩ := hmark c hc
    have hnone : readExponent? (c :: cs) = none := if_neg (not_or.mpr ⟨hexponent, hexponent'⟩)
    unfold readUnsigned? at hd
    dsimp only at hd
    rw [hdrop] at hd
    split at hd
    case h_1 heq => exact absurd (List.cons.inj heq).1 hpoint
    case h_2 =>
      rw [hnone] at hd
      split at hd <;> cases hd

theorem readDigits_whole (hwhole : Grammar.isFloatingText text = false) :
    readDigits? text.toList = some (digitsValue text.toList) :=
  if_pos ⟨h.ne_nil, List.all_eq_true.mpr (h.all_digits hwhole)⟩

theorem readInt_whole (hwhole : Grammar.isFloatingText text = false) :
    readInt? text = some (digitsValue text.toList : Int) := by
  rw [h.readInt_eq, h.readDigits_whole hwhole]
  rfl

theorem readUnsigned_whole (hwhole : Grammar.isFloatingText text = false) :
    readUnsigned? text.toList = some ⟨digitsValue text.toList, 0⟩ := by
  have hdrop : text.toList.dropWhile Char.isDigit = [] := List.dropWhile_eq_nil_iff.mpr (h.all_digits hwhole)
  have htake : text.toList.takeWhile Char.isDigit = text.toList :=
    List.takeWhile_eq_self_iff.mpr (h.all_digits hwhole)
  unfold readUnsigned?
  dsimp only
  rw [hdrop, htake]
  dsimp only
  rw [if_neg (by rw [List.append_nil]; exact h.ne_nil), List.append_nil]
  rfl

theorem readFloat_whole (hwhole : Grammar.isFloatingText text = false) :
    readFloat? text = some (⟨digitsValue text.toList, 0⟩ : Decimal).toFloat := by
  have hmagnitude : readMagnitude? text.toList = some (.finite ⟨digitsValue text.toList, 0⟩) := by
    have hinf : text.toList.map Char.toLower ≠ "inf".toList :=
      h.map_toLower_ne (rfl : 'i'.isDigit = false) (by decide)
    have hinfinity : text.toList.map Char.toLower ≠ "infinity".toList :=
      h.map_toLower_ne (rfl : 'i'.isDigit = false) (by decide)
    have hnan : text.toList.map Char.toLower ≠ "nan".toList :=
      h.map_toLower_ne (rfl : 'n'.isDigit = false) (by decide)
    unfold readMagnitude?
    dsimp only
    rw [if_neg (not_or.mpr ⟨hinf, hinfinity⟩), if_neg hnan, h.readUnsigned_whole hwhole]
    rfl
  rw [readFloat?, h.unsigned]
  dsimp only
  rw [hmagnitude]
  rfl

theorem readFloat_minus {x : Float} (hx : readFloat? text = some x) :
    readFloat? ("-" ++ text) = some (-x) := by
  rw [readFloat?, h.unsigned] at hx
  obtain ⟨m, hm, rfl⟩ := Option.map_eq_some_iff.mp hx
  rw [readFloat?, toList_minus]
  change (readMagnitude? text.toList).map _ = _
  rw [hm]
  rfl

/-! ### The number that is read -/

/-- What a numeral is read as: an integer of 32 bits, one of 64 bits that needs them, or a number in double precision. -/
theorem readIntegral_cases {v : Number} (hv : Number.readIntegral? text = some v) :
    (∃ k : Int32, v = .integer k ∧ Grammar.isFloatingText text = false ∧ digitsValue text.toList ≤ 2 ^ 31 - 1 ∧
        k.toInt = digitsValue text.toList) ∨
      (∃ k : Int64, v = .long k ∧ Grammar.isFloatingText text = false ∧ 2 ^ 31 - 1 < digitsValue text.toList ∧
        digitsValue text.toList ≤ 2 ^ 63 - 1 ∧ k.toInt = digitsValue text.toList) ∨
      ∃ x, v = .double x ∧ readFloat? text = some x ∧
        (Grammar.isFloatingText text = true ∨ 2 ^ 63 - 1 < digitsValue text.toList) := by
  unfold Number.readIntegral? readInt32? readInt64? at hv
  cases hmark : Grammar.isFloatingText text with
  | true =>
    rw [readInt_of_floating hmark] at hv
    obtain ⟨x, hx, rfl⟩ := Option.map_eq_some_iff.mp hv
    exact .inr (.inr ⟨x, rfl, hx, .inl rfl⟩)
  | false =>
    rw [h.readInt_whole hmark, Option.bind_some, Option.bind_some] at hv
    generalize digitsValue text.toList = n at hv
    unfold int32? int64? at hv
    by_cases hnarrow : n ≤ 2 ^ 31 - 1
    · rw [if_pos (by omega)] at hv
      cases hv
      exact .inl ⟨_, rfl, rfl, hnarrow, toInt_int32 (by omega) (by omega)⟩
    · rw [if_neg (by omega)] at hv
      by_cases hwide : n ≤ 2 ^ 63 - 1
      · rw [if_pos (by omega)] at hv
        cases hv
        exact .inr (.inl ⟨_, rfl, rfl, by omega, hwide, toInt_int64 (by omega) (by omega)⟩)
      · rw [if_neg (by omega)] at hv
        obtain ⟨x, hx, rfl⟩ := Option.map_eq_some_iff.mp hv
        exact .inr (.inr ⟨x, rfl, hx, .inr (by omega)⟩)

/-- **A numeral writes a number of its kind**, and an integer kind has the very value of the digits. -/
theorem isWritten {v : Number} (hv : Number.readIntegral? text = some v) : v.IsWritten text := by
  rcases h.readIntegral_cases hv with
    ⟨k, rfl, hwhole, hnarrow, hk⟩ | ⟨k, rfl, hwhole, hwide, hbound, hk⟩ | ⟨x, rfl, hx, hdouble⟩
  · refine ⟨?_, fun _ => congrArg some hk, nofun⟩
    rw [NumberKind.ofNumeral, hwhole, if_neg Bool.false_ne_true, if_pos hnarrow]
    rfl
  · refine ⟨?_, fun _ => congrArg some hk, nofun⟩
    rw [NumberKind.ofNumeral, hwhole, if_neg Bool.false_ne_true, if_neg (by omega), if_pos hbound]
    rfl
  · refine ⟨?_, fun hne => absurd rfl hne, fun _ => ⟨x, hx, rfl⟩⟩
    unfold NumberKind.ofNumeral
    rcases hdouble with hmark | hbeyond
    · rw [if_pos hmark]
      rfl
    · rw [if_neg (show ¬digitsValue text.toList ≤ 2 ^ 31 - 1 by omega),
        if_neg (show ¬digitsValue text.toList ≤ 2 ^ 63 - 1 by omega), ite_self]
      rfl

theorem exists_opposite {v : Number} (hv : Number.readIntegral? text = some v) :
    ∃ w, v.negate? = some w ∧ v.IsOpposite w := by
  have hints : ∀ {v w : Number} {n : Int}, v.toInt? = some n → w.toInt? = some (-n) → w.kind = v.kind →
      v.IsOpposite w := by
    intro v w n hv hw hkind
    refine ⟨hkind, fun n' hn' => ?_, fun x hx => ?_, fun q hq => ?_⟩
    · cases hv.symm.trans hn'
      exact hw
    · subst hx
      cases hv
    · rw [Number.value_of_toInt hv] at hq
      cases hq
      rw [Number.value_of_toInt hw, Int.cast_neg]
  rcases h.readIntegral_cases hv with ⟨k, rfl, _, hnarrow, hk⟩ | ⟨k, rfl, _, _, hbound, hk⟩ | ⟨x, rfl, _, _⟩
  · refine ⟨.integer (Int32.ofInt (-k.toInt)), ?_, hints rfl ?_ rfl⟩
    · rw [Number.negate?, int32_ofInt (by omega) (by omega)]
      rfl
    · exact congrArg some (toInt_int32 (by omega) (by omega))
  · refine ⟨.long (Int64.ofInt (-k.toInt)), ?_, hints rfl ?_ rfl⟩
    · rw [Number.negate?, int64?, if_pos (by omega)]
      rfl
    · exact congrArg some (toInt_int64 (by omega) (by omega))
  · refine ⟨.double (-x), rfl, rfl, fun n hn => ?_, fun y hy => ?_, fun q hq => Floating.value_neg hq⟩
    · cases hn
    · cases hy
      rfl

/-! ### The same text in double precision -/

theorem toFloat_readIntegral {v : Number} (hv : Number.readIntegral? text = some v) :
    readFloat? text = some v.toFloat := by
  rcases h.readIntegral_cases hv with ⟨k, rfl, hwhole, _, hk⟩ | ⟨k, rfl, hwhole, _, _, hk⟩ | ⟨x, rfl, hx, _⟩
  · rw [h.readFloat_whole hwhole, Number.toFloat, hk, NumberText.toFloat_ofNat]
  · rw [h.readFloat_whole hwhole, Number.toFloat, hk, NumberText.toFloat_ofNat]
  · exact hx

theorem toFloat_opposite {v w : Number} (hv : Number.readIntegral? text = some v) (hw : v.IsOpposite w) :
    (-v.toFloat == w.toFloat) = true := by
  have hints : ∀ {v w : Number} {k : Nat}, v.toInt? = some (k : Int) → w.toInt? = some (-(k : Int)) →
      (-v.toFloat == w.toFloat) = true := by
    intro v w k hv hw
    rw [Number.toFloat_of_toInt hv, Number.toFloat_of_toInt hw]
    rcases Nat.eq_zero_or_pos k with rfl | hpos
    · decide +kernel
    · rw [NumberText.toFloat_negOfNat hpos, ← NumberText.toFloat_ofNat]
      exact (Floating.isNumber_ofInt _).neg.beq_self
  rcases h.readIntegral_cases hv with ⟨k, rfl, _, _, hk⟩ | ⟨k, rfl, _, _, _, hk⟩ | ⟨x, rfl, hx, _⟩
  · exact hints (congrArg some hk) (hk ▸ hw.exact _ rfl)
  · exact hints (congrArg some hk) (hk ▸ hw.exact _ rfl)
  · rw [hw.rounded x rfl]
    exact (h.isNumber hx).neg.beq_self

end Numeral

/-! ### Signs -/

theorem Numeral.readSigned_isSome {text : String} (h : Numeral text.toList) (negative : Bool) :
    ∃ v, Number.readSigned? negative text = some v := by
  obtain ⟨v, hv⟩ : ∃ v, Number.readIntegral? text = some v := by
    obtain ⟨x, hx⟩ := h.readFloat_isSome
    unfold Number.readIntegral?
    split
    · exact ⟨_, rfl⟩
    · split
      · exact ⟨_, rfl⟩
      · exact ⟨.double x, by rw [hx]; rfl⟩
  obtain ⟨w, hw, _⟩ := h.exists_opposite hv
  rw [Number.readSigned?, Number.readLiteral_eq, hv]
  cases negative with
  | false => exact ⟨v, rfl⟩
  | true => exact ⟨w, hw⟩

/-- A signed number is the number that its numeral writes, or the one with the opposite sign behind a minus. -/
theorem Numeral.readSigned_cases {text : String} (h : Numeral text.toList) {negative : Bool} {w : Number}
    (hw : Number.readSigned? negative text = some w) :
    (negative = false ∧ Number.readIntegral? text = some w) ∨
      (negative = true ∧ ∃ v, Number.readIntegral? text = some v ∧ v.negate? = some w ∧ v.IsOpposite w) := by
  rw [Number.readSigned?, Number.readLiteral_eq] at hw
  cases negative with
  | false => exact .inl ⟨rfl, hw⟩
  | true =>
    obtain ⟨v, hv, hnegate⟩ := Option.bind_eq_some_iff.mp hw
    obtain ⟨w', hw', hopposite⟩ := h.exists_opposite hv
    obtain rfl : w' = w := Option.some.inj (hw'.symm.trans hnegate)
    exact .inr ⟨rfl, v, hv, hnegate, hopposite⟩

namespace SignedNumber

variable {n : SignedNumber} (h : Numeral n.text.toList)

include h

theorem isNumber_toFloat : Floating.IsNumber n.value.toFloat := by
  rcases h.readSigned_cases n.reads with ⟨-, hv⟩ | ⟨-, v, hv, hnegate, -⟩
  · exact (h.isNumber_value hv).1
  · exact (h.isNumber_value hv).2 n.value hnegate

/-- The text of a signed number is read in double precision as the number itself. -/
theorem readFloat_signedText : ∃ x, readFloat? n.signedText = some x ∧ (x == n.value.toFloat) = true := by
  rcases h.readSigned_cases n.reads with ⟨hnegative, hv⟩ | ⟨hnegative, v, hv, -, hopposite⟩
  · rw [signedText, hnegative]
    exact ⟨_, h.toFloat_readIntegral hv, (isNumber_toFloat h).beq_self⟩
  · rw [signedText, hnegative]
    exact ⟨_, h.readFloat_minus (h.toFloat_readIntegral hv), h.toFloat_opposite hv hopposite⟩

end SignedNumber

end GeoFilter
