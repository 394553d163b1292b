import GeoFilter.Proofs.Translation.Geometry
import GeoFilter.Text.Blank

/-!
# Numerals

What is needed of the text of a number without its sign: it can be read, it has no sign of its own and no
blanks.  Then a minus in front of the text and a minus in front of the number come to the same, as long as
the number fits in 32 bits.
-/

namespace GeoFilter

open Decimal (splitSign readDigits? readInt? readInt32? readInt64? int32? int64? readUnsigned? readFloat?)

/-- A text that writes a number without a sign. -/
structure Numeral (cs : List Char) : Prop where
  readable : ∃ d, readUnsigned? cs = some d
  unsigned : splitSign cs = (false, cs)
  solid : ∀ c ∈ cs, Text.isBlank c = false

namespace Numeral

variable {text : String}

theorem ne_nil {cs : List Char} (h : Numeral cs) : cs ≠ [] := by
  rintro rfl
  obtain ⟨d, hd⟩ := h.readable
  cases hd

/-! ### Blanks -/

theorem trimChars_eq {cs : List Char} (h : ∀ c ∈ cs, Text.isBlank c = false) : Text.trimChars cs = cs := by
  have hdrop : ∀ ds : List Char, (∀ c ∈ ds, Text.isBlank c = false) → ds.dropWhile Text.isBlank = ds := by
    intro ds hds
    cases ds with
    | nil => rfl
    | cons d ds => rw [List.dropWhile_cons_of_neg (by simp [hds d List.mem_cons_self])]
  rw [Text.trimChars, hdrop cs h, hdrop cs.reverse (fun c hc => h c (List.mem_reverse.mp hc)),
    List.reverse_reverse]

theorem trimmed_eq (h : Numeral text.toList) : Text.trimmed text = text := by
  rw [Text.trimmed, trimChars_eq h.solid, String.ofList_toList]

theorem toList_minus (text : String) : ("-" ++ text).toList = '-' :: text.toList := by
  rw [String.toList_append]
  rfl

theorem trimmed_minus (h : Numeral text.toList) : Text.trimmed ("-" ++ text) = "-" ++ text := by
  have hsolid : ∀ c ∈ ("-" ++ text).toList, Text.isBlank c = false := by
    rw [toList_minus]
    exact List.forall_mem_cons.mpr ⟨by decide, h.solid⟩
  rw [Text.trimmed, trimChars_eq hsolid, String.ofList_toList]

/-! ### Integers -/

theorem readInt_eq (h : Numeral text.toList) :
    readInt? text = (readDigits? text.toList).map fun n : Nat => (n : Int) := by
  rw [readInt?, Decimal.readIntChars?, h.unsigned]
  cases hread : readDigits? text.toList <;> simp [hread]

theorem readInt_minus (text : String) :
    readInt? ("-" ++ text) = (readDigits? text.toList).map fun n : Nat => -(n : Int) := by
  rw [readInt?, Decimal.readIntChars?, toList_minus]
  cases hread : readDigits? text.toList <;> simp [splitSign, hread]

theorem readFloat_isSome (h : Numeral text.toList) : ∃ x, readFloat? text = some x := by
  obtain ⟨d, hd⟩ := h.readable
  have hmagnitude : ∃ m, Decimal.readMagnitude? text.toList = some m := by
    unfold Decimal.readMagnitude?
    dsimp only
    split
    · exact ⟨_, rfl⟩
    · split
      · exact ⟨_, rfl⟩
      · rw [hd]
        exact ⟨_, rfl⟩
  obtain ⟨m, hm⟩ := hmagnitude
  rw [readFloat?, h.unsigned]
  simp only [hm, Option.map_some]
  exact ⟨_, rfl⟩

theorem int32_eq_some {n : Int} {k : Int32} (h : int32? n = some k) :
    (-2147483648 ≤ n ∧ n ≤ 2147483647) ∧ k = Int32.ofInt n := by
  unfold int32? at h
  split at h
  case isTrue hbounds => exact ⟨hbounds, (Option.some.inj h).symm⟩
  case isFalse => cases h

theorem int32_ofInt {n : Int} (hlow : -2147483648 ≤ n) (hhigh : n ≤ 2147483647) :
    int32? n = some (Int32.ofInt n) :=
  if_pos ⟨hlow, hhigh⟩

theorem toInt_int32 {n : Int} (hlow : -2147483648 ≤ n) (hhigh : n ≤ 2147483647) :
    (Int32.ofInt n).toInt = n :=
  Int32.toInt_ofInt_of_le (by omega) (by omega)

theorem toInt_int64 {n : Int} (hlow : -9223372036854775808 ≤ n) (hhigh : n ≤ 9223372036854775807) :
    (Int64.ofInt n).toInt = n :=
  Int64.toInt_ofInt_of_le (by omega) (by omega)

/-- Behind a minus as well, a number that fits in 32 bits is read as an integer. -/
theorem integer (h : Numeral text.toList) {k : Int32}
    (hread : Number.readIntegral? text = some (.integer k)) :
    readInt32? text = some k ∧
      ∃ k', (Number.integer k).negate? = some (.integer k') ∧ readInt32? ("-" ++ text) = some k' := by
  have hk : readInt32? text = some k := by
    unfold Number.readIntegral? at hread
    cases h32 : readInt32? text with
    | some n =>
      rw [h32] at hread
      cases hread
      rfl
    | none =>
      rw [h32] at hread
      cases h64 : readInt64? text with
      | some n =>
        rw [h64] at hread
        cases hread
      | none =>
        rw [h64] at hread
        cases hfloat : readFloat? text with
        | some x =>
          rw [hfloat] at hread
          cases hread
        | none =>
          rw [hfloat] at hread
          cases hread
  refine ⟨hk, ?_⟩
  have hdigits := hk
  rw [readInt32?, h.readInt_eq] at hdigits
  cases hn : readDigits? text.toList with
  | none =>
    rw [hn] at hdigits
    cases hdigits
  | some n =>
    simp only [hn, Option.map_some, Option.bind_some] at hdigits
    obtain ⟨⟨_, hhigh⟩, rfl⟩ := int32_eq_some hdigits
    have hvalue : (Int32.ofInt n).toInt = n := toInt_int32 (by omega) hhigh
    refine ⟨Int32.ofInt (-n), ?_, ?_⟩
    · rw [Number.negate?, hvalue, int32_ofInt (by omega) (by omega)]
      rfl
    · simp only [readInt32?, readInt_minus, hn, Option.map_some, Option.bind_some]
      exact int32_ofInt (by omega) (by omega)

theorem negate_long (h : Numeral text.toList) {n : Int64} (hread : readInt64? text = some n) :
    ∃ n', (Number.long n).negate? = some (.long n') := by
  rw [readInt64?, h.readInt_eq] at hread
  cases hm : readDigits? text.toList with
  | none =>
    rw [hm] at hread
    cases hread
  | some m =>
    simp only [hm, Option.map_some, Option.bind_some] at hread
    unfold int64? at hread
    split at hread
    case isFalse => cases hread
    case isTrue hbounds =>
      have hvalue : n.toInt = m := by
        rw [← Option.some.inj hread]
        exact toInt_int64 hbounds.1 hbounds.2
      refine ⟨Int64.ofInt (-m), ?_⟩
      rw [Number.negate?, hvalue, int64?, if_pos (by omega)]
      rfl

/-- A number that does not fit in 32 bits is read as one of another kind, which a minus does not change; the
text with the minus in front fits at most at the very end of the range. -/
theorem not_integer (h : Numeral text.toList)
    (hread : ∀ k, Number.readIntegral? text ≠ some (.integer k)) :
    readInt32? text = none ∧
      (∃ v v', Number.readIntegral? text = some v ∧ v.negate? = some v' ∧
        (∀ k, v ≠ .integer k) ∧ ∀ k, v' ≠ .integer k) ∧
      (readInt32? ("-" ++ text) = none ∨ readInt? text = some 2147483648) := by
  have h32 : readInt32? text = none := by
    cases h32 : readInt32? text with
    | none => rfl
    | some k => exact absurd (by rw [Number.readIntegral?, h32]) (hread k)
  refine ⟨h32, ?_, ?_⟩
  · cases h64 : readInt64? text with
    | some n =>
      have hlong : Number.readIntegral? text = some (.long n) := by
        rw [Number.readIntegral?, h32, h64]
      obtain ⟨n', hn'⟩ := h.negate_long h64
      refine ⟨.long n, .long n', hlong, hn', fun k => ?_, fun k => ?_⟩
      · intro hk
        cases hk
      · intro hk
        cases hk
    | none =>
      obtain ⟨x, hx⟩ := h.readFloat_isSome
      refine ⟨.double x, .double (-x), ?_, rfl, fun k => ?_, fun k => ?_⟩
      · rw [Number.readIntegral?, h32, h64, hx]
        rfl
      · intro hk
        cases hk
      · intro hk
        cases hk
  · rw [readInt32?, h.readInt_eq] at h32
    rw [readInt32?, readInt_minus, h.readInt_eq]
    cases hn : readDigits? text.toList with
    | none => exact .inl rfl
    | some n =>
      simp only [hn, Option.map_some, Option.bind_some] at h32 ⊢
      unfold int32? at h32 ⊢
      have hlarge : ¬(n : Int) ≤ 2147483647 := by
        intro hle
        rw [if_pos ⟨by omega, hle⟩] at h32
        cases h32
      by_cases hmost : (n : Int) = 2147483648
      · exact .inr (congrArg some hmost)
      · exact .inl (if_neg (by omega))

end Numeral

/-! ### Floating-point texts -/

theorem mem_of_splitSign {cs : List Char} {c : Char} (hc : c ∈ cs) (hsign : c ≠ '-' ∧ c ≠ '+') :
    c ∈ (splitSign cs).2 := by
  unfold splitSign
  split
  · exact (List.mem_cons.mp hc).resolve_left hsign.1
  · exact (List.mem_cons.mp hc).resolve_left hsign.2
  · exact hc

theorem readInt_of_floating {text : String} (h : Grammar.isFloatingText text = true) : readInt? text = none := by
  obtain ⟨c, hc, hmark⟩ := List.any_eq_true.mp h
  have hmark : (c = '.' ∨ c = 'e') ∨ c = 'E' := by simpa using hmark
  have hsign : c ≠ '-' ∧ c ≠ '+' := by rcases hmark with (rfl | rfl) | rfl <;> decide
  have hdigit : c.isDigit = false := by rcases hmark with (rfl | rfl) | rfl <;> decide
  have hnone : readDigits? (splitSign text.toList).2 = none := by
    refine if_neg fun hall => ?_
    have hc := List.all_eq_true.mp hall.2 c (mem_of_splitSign hc hsign)
    rw [hdigit] at hc
    cases hc
  simp [readInt?, Decimal.readIntChars?, hnone]

/-- A number is read in the same way whether a floating-point number is expected or not. -/
theorem Number.readLiteral_eq (text : String) : readLiteral? text = readIntegral? text := by
  unfold readLiteral?
  split
  case isTrue h =>
    rw [readIntegral?, readInt32?, readInt64?, readInt_of_floating h]
    rfl
  case isFalse => rfl

end GeoFilter
