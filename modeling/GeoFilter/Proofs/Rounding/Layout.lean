import GeoFilter.Proofs.NumberText
import GeoFilter.Proofs.Rounding.Shortest

/-!
# Shown numbers read back

In either layout a decimal is written as the text of a number, which writes the decimal again; so the text of a finite
number is that of a number, and what is read from it is equal to the number.
-/

namespace GeoFilter.Decimal

open Floating (Canonical RoundsTo fields)
open Float.Model (Format UnpackedFloat)
open Float.Model.UnpackedFloat (Sign)
open Scan (IsFraction IsExponent)

/-! ### Digits -/

theorem digitsValue_eq (ds : List Char) : digitsValue ds = Nat.ofDigitChars 10 ds 0 := rfl

theorem digitsValue_toDigits (n : Nat) : digitsValue (Nat.toDigits 10 n) = n := by
  rw [digitsValue_eq, Nat.ofDigitChars_ten_toDigits]

theorem digitsValue_append_zeros (ds : List Char) (k : Nat) :
    digitsValue (ds ++ List.replicate k '0') = digitsValue ds * 10 ^ k := by
  rw [digitsValue_eq, Nat.ofDigitChars_append, Nat.ofDigitChars_replicate_zero, digitsValue_eq, Nat.mul_comm]

theorem digitsValue_zeros_append (k : Nat) (ds : List Char) :
    digitsValue (List.replicate k '0' ++ ds) = digitsValue ds := by
  rw [digitsValue_eq, Nat.ofDigitChars_append, Nat.ofDigitChars_replicate_zero, Nat.mul_zero, digitsValue_eq]

theorem isDigit_zeros (k : Nat) : ∀ d ∈ List.replicate k '0', d.isDigit = true := by
  intro d hd
  rw [List.eq_of_mem_replicate hd]
  rfl

theorem isDigit_toDigits (n : Nat) : ∀ d ∈ Nat.toDigits 10 n, d.isDigit = true :=
  fun _ hd => Nat.isDigit_of_mem_toDigits (by decide) (by decide) hd

/-! ### Layouts -/

/-- Whether a text of a number consists of some characters and writes a decimal again. -/
structure Rewrites (d : Decimal) (cs : List Char) (t : NumberText) : Prop where
  chars : t.chars = cs
  value : t.decimal.value = d.value

variable {digits : List Char} {n : Nat} (hdigits : digits = Nat.toDigits 10 n)

include hdigits

theorem exists_whole (k : Nat) {wholeEnd : List Char} (hend : wholeEnd = ['.', '0'] ∨ wholeEnd = []) :
    ∃ t, Rewrites ⟨n, k⟩ (digits ++ List.replicate k '0' ++ wholeEnd) t ∧ (wholeEnd ≠ [] → ¬t.IsWhole) := by
  subst hdigits
  have hfraction : IsFraction wholeEnd := by
    rcases hend with rfl | rfl
    · exact .inr ⟨['0'], rfl, List.all_eq_true.mp rfl⟩
    · exact .inl rfl
  refine ⟨⟨Nat.toDigits 10 n ++ List.replicate k '0', wholeEnd, [], ?_, ?_, hfraction, .inl rfl⟩,
    ⟨List.append_nil _, ?_⟩, fun hne h => hne h.1⟩
  · exact List.append_ne_nil_of_left_ne_nil Nat.toDigits_ne_nil _
  · exact List.forall_mem_append.mpr ⟨isDigit_toDigits n, isDigit_zeros k⟩
  · rcases hend with rfl | rfl
    · have hzeros : (Nat.toDigits 10 n ++ List.replicate k '0') ++ ['0'] =
          Nat.toDigits 10 n ++ List.replicate (k + 1) '0' := by
        rw [List.replicate_succ', List.append_assoc]
      unfold NumberText.decimal
      dsimp only [List.tail_cons]
      rw [hzeros, digitsValue_append_zeros, digitsValue_toDigits, value, value]
      change ((n * 10 ^ (k + 1) : Nat) : ℚ) * 10 ^ (-1 : Int) = n * 10 ^ (k : Int)
      rw [zpow_natCast]
      push_cast
      rw [pow_succ]
      norm_num
      ring
    · unfold NumberText.decimal
      dsimp only [List.tail_nil]
      rw [List.append_nil, digitsValue_append_zeros, digitsValue_toDigits, value, value]
      change ((n * 10 ^ k : Nat) : ℚ) * 10 ^ (0 : Int) = n * 10 ^ (k : Int)
      rw [zpow_natCast]
      push_cast
      ring

theorem exists_pointed {k : Nat} (hk : 0 < k) (hlt : k < digits.length) :
    ∃ t, Rewrites ⟨n, k - digits.length⟩ (digits.take k ++ '.' :: digits.drop k) t ∧ ¬t.IsWhole := by
  have hall : ∀ d ∈ digits, d.isDigit = true := hdigits ▸ isDigit_toDigits n
  refine ⟨⟨digits.take k, '.' :: digits.drop k, [], ?_, fun d hd => hall d (List.mem_of_mem_take hd),
    .inr ⟨_, rfl, fun d hd => hall d (List.mem_of_mem_drop hd)⟩, .inl rfl⟩, ⟨List.append_nil _, ?_⟩,
    fun h => List.cons_ne_nil _ _ h.1⟩
  · exact List.ne_nil_of_length_pos (by rw [List.length_take]; omega)
  · unfold NumberText.decimal
    dsimp only [List.tail_cons]
    rw [List.take_append_drop, hdigits, digitsValue_toDigits, ← hdigits, List.length_drop]
    have hexponent : ((readExponent? []).getD 0 : Int) - (digits.length - k : Nat) = k - digits.length := by
      change (0 : Int) - (digits.length - k : Nat) = k - digits.length
      omega
    rw [hexponent]

theorem exists_small (k : Nat) :
    ∃ t, Rewrites ⟨n, -(k + digits.length : Nat)⟩ (['0', '.'] ++ List.replicate k '0' ++ digits) t ∧ ¬t.IsWhole := by
  have hall : ∀ d ∈ digits, d.isDigit = true := hdigits ▸ isDigit_toDigits n
  refine ⟨⟨['0'], '.' :: (List.replicate k '0' ++ digits), [], List.cons_ne_nil _ _, List.all_eq_true.mp rfl,
    .inr ⟨_, rfl, List.forall_mem_append.mpr ⟨isDigit_zeros k, hall⟩⟩, .inl rfl⟩, ⟨List.append_nil _, ?_⟩,
    fun h => List.cons_ne_nil _ _ h.1⟩
  have hzeros : ['0'] ++ (List.replicate k '0' ++ digits) = List.replicate (k + 1) '0' ++ digits := by
    rw [List.replicate_succ]
    rfl
  unfold NumberText.decimal
  dsimp only [List.tail_cons]
  rw [hzeros, digitsValue_zeros_append, hdigits, digitsValue_toDigits, ← hdigits, List.length_append,
    List.length_replicate]
  have hexponent : ((readExponent? []).getD 0 : Int) - (k + digits.length : Nat) = -(k + digits.length : Nat) :=
    Int.zero_sub _
  rw [hexponent]

theorem exists_scientific (e : Int) :
    ∃ t, Rewrites ⟨n, e⟩ (scientificChars digits (digits.length + e - 1)) t ∧ ¬t.IsWhole := by
  have hall : ∀ d ∈ digits, d.isDigit = true := hdigits ▸ isDigit_toDigits n
  have hne : digits ≠ [] := hdigits ▸ Nat.toDigits_ne_nil
  set order := (digits.length : Int) + e - 1 with horder
  set mark := 'e' :: ((if order < 0 then ['-'] else []) ++ Nat.toDigits 10 order.natAbs) with hmark
  have hexponent : IsExponent mark := by
    refine .inr ⟨'e', if order < 0 then ['-'] else [], Nat.toDigits 10 order.natAbs, rfl, .inl rfl, ?_,
      Nat.toDigits_ne_nil, isDigit_toDigits _⟩
    split
    · exact .inr (.inr rfl)
    · exact .inl rfl
  have hread : readExponent? mark = some order := by
    have hdigitsRead := Scan.readDigits_isSome Nat.toDigits_ne_nil (isDigit_toDigits order.natAbs)
    rw [digitsValue_toDigits] at hdigitsRead
    rw [hmark, readExponent?, if_pos (.inl rfl)]
    split
    case isTrue hneg =>
      rw [List.singleton_append, readIntChars?, splitSign]
      dsimp only
      rw [hdigitsRead]
      change some (-(order.natAbs : Int)) = some order
      congr 1
      omega
    case isFalse hneg =>
      have hsplit := Scan.splitSign_digits Nat.toDigits_ne_nil (isDigit_toDigits order.natAbs) []
      rw [List.append_nil] at hsplit
      rw [List.nil_append, readIntChars?, hsplit]
      dsimp only
      rw [hdigitsRead]
      change some (order.natAbs : Int) = some order
      congr 1
      omega
  obtain ⟨d, ds, rfl⟩ := List.exists_cons_of_ne_nil hne
  have hd : d.isDigit = true := hall d List.mem_cons_self
  have hds : ∀ d ∈ ds, d.isDigit = true := fun d hd => hall d (List.mem_cons_of_mem _ hd)
  have hfraction : IsFraction (if ds = [] then [] else '.' :: ds) := by
    split
    · exact .inl rfl
    · exact .inr ⟨ds, rfl, hds⟩
  refine ⟨⟨[d], if ds = [] then [] else '.' :: ds, mark, List.cons_ne_nil _ _, List.forall_mem_singleton.mpr hd,
    hfraction, hexponent⟩, ⟨?_, ?_⟩, fun h => List.cons_ne_nil _ _ h.2⟩
  · cases ds with
    | nil => rfl
    | cons d' ds => rfl
  · have htail : (if ds = [] then [] else '.' :: ds).tail = ds := by
      split
      case isTrue hnil => rw [hnil]; rfl
      case isFalse => rfl
    unfold NumberText.decimal
    dsimp only
    rw [htail, hread, List.singleton_append, hdigits, digitsValue_toDigits]
    have hexponent : (some order).getD 0 - (ds.length : Int) = e := by
      rw [horder, List.length_cons]
      change ((ds.length + 1 : Nat) : Int) + e - 1 - ds.length = e
      omega
    rw [hexponent]

omit hdigits

/-- A decimal is written as the text of a number that writes it again; filters show it with a point or an exponent. -/
theorem exists_numberText (layout : Layout) (hend : layout.wholeEnd = ['.', '0'] ∨ layout.wholeEnd = []) (d : Decimal) :
    ∃ t, Rewrites d (layout.chars d) t ∧ (layout.wholeEnd ≠ [] → ¬t.IsWhole) := by
  obtain ⟨n, e⟩ := d
  have hlength : 0 < (Nat.toDigits 10 n).length := Nat.length_toDigits_pos
  unfold Layout.chars
  dsimp only
  split
  case isFalse =>
    obtain ⟨t, ht, hfloating⟩ := exists_scientific (n := n) rfl e
    exact ⟨t, ht, fun _ => hfloating⟩
  case isTrue =>
    unfold positionalChars
    dsimp only
    split
    case isTrue he =>
      obtain ⟨k, rfl⟩ := Int.eq_ofNat_of_zero_le he
      exact exists_whole rfl k hend
    case isFalse he =>
      split
      case isTrue hpoint =>
        set k := ((Nat.toDigits 10 n).length + e).toNat with hk
        obtain ⟨t, ht, hfloating⟩ := exists_pointed (n := n) rfl (k := k) (by omega) (by omega)
        have he : (k : Int) - (Nat.toDigits 10 n).length = e := by omega
        rw [he] at ht
        exact ⟨t, ht, fun _ => hfloating⟩
      case isFalse hpoint =>
        set k := (-((Nat.toDigits 10 n).length + e)).toNat with hk
        obtain ⟨t, ht, hfloating⟩ := exists_small (n := n) rfl k
        have he : (-(k + (Nat.toDigits 10 n).length : Nat) : Int) = e := by omega
        rw [he] at ht
        exact ⟨t, ht, fun _ => hfloating⟩

end GeoFilter.Decimal
