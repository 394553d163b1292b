import GeoFilter.Proofs.Rounding
import Mathlib.Data.Nat.Bitwise

/-!
# The fields of numbers

A number keeps its fields: what is packed into a number is unpacked from it, and arithmetic on numbers is arithmetic on
their fields.
-/

namespace GeoFilter.Floating

open Float.Model (Format UnpackedFloat)
open Float.Model.UnpackedFloat

/-! ### Packed fields -/

theorem unpackSign_packComponents {spec : Format} (sign : Sign) (exponent : BitVec spec.exponentBits)
    (mantissa : BitVec spec.mantissaBitsWithoutImplicit) :
    unpackSign (packComponents spec sign exponent mantissa) = sign.toBitVec := by
  ext i hi
  obtain rfl : i = 0 := by omega
  delta unpackSign
  simp [packComponents, BitVec.getLsbD_append, BitVec.getElem_append]

theorem ofBitVec_toBitVec (sign : Sign) : Sign.ofBitVec sign.toBitVec = sign := by
  cases sign <;> rfl

theorem unpack_packedZero (sign : Sign) : unpack Format.binary64 (packedZero Format.binary64 sign) = .zero sign := by
  cases sign <;> rfl

theorem toNat_implicit (mantissa : BitVec 52) : (1#1 ++ mantissa).toNat = 2 ^ 52 + mantissa.toNat := by
  rw [BitVec.toNat_append, ← Nat.shiftLeft_add_eq_or_of_lt mantissa.isLt]
  rfl

theorem Canonical.unpack_pack {m : Nat} {e : Int} (h : Canonical m e) (sign : Sign) :
    unpack Format.binary64 (pack Format.binary64 (.finite sign m e h.pos)) = .finite sign m e h.pos := by
  have hbound := h.bound
  have hleast := h.least
  have hgreatest := h.greatest
  have hpos := h.pos
  have hbias : e + Format.binary64.exponentBias + Format.binary64.mantissaBitsWithoutImplicit = e + 1075 := by
    change e + 1023 + 52 = e + 1075
    omega
  by_cases hnormal : 2 ^ 52 ≤ m
  · have hlog : m.log2 = 52 := by
      have h52 := (Nat.le_log2 hpos.ne').mpr hnormal
      have h53 := (Nat.log2_lt hpos.ne').mpr hbound
      omega
    have hpack : pack Format.binary64 (.finite sign m e h.pos) =
        packComponents Format.binary64 sign (BitVec.ofNat 11 (e + 1075).toNat) (BitVec.ofNat 52 m) := by
      unfold pack
      dsimp only
      rw [hbias, if_neg, if_pos]
      · rw [hlog]
        rfl
      · omega
    have hexponent : (BitVec.ofNat 11 (e + 1075).toNat).toNat = (e + 1075).toNat := by
      rw [BitVec.toNat_ofNat, Nat.mod_eq_of_lt (by omega)]
    have hones : BitVec.ofNat 11 (e + 1075).toNat ≠ -1#11 := by
      intro heq
      have heq := congrArg BitVec.toNat heq
      rw [hexponent] at heq
      change _ = 2047 at heq
      omega
    have hzeros : BitVec.ofNat 11 (e + 1075).toNat ≠ 0#11 := by
      intro heq
      have heq := congrArg BitVec.toNat heq
      rw [hexponent] at heq
      change _ = 0 at heq
      omega
    have hmantissa : (1#1 ++ BitVec.ofNat 52 m).toNat = m := by
      rw [toNat_implicit, BitVec.toNat_ofNat]
      omega
    rw [hpack]
    unfold unpack
    dsimp only
    rw [unpackExponent_packComponents, if_neg hones, if_neg hzeros, UnpackedFloat.finite.injEq,
      unpackSign_packComponents, unpackMantissa_packComponents, hexponent]
    refine ⟨ofBitVec_toBitVec sign, hmantissa, ?_⟩
    change ((e + 1075).toNat : Int) - (1023 + 52) = e
    omega
  · obtain rfl : e = -1074 := h.normal.resolve_right hnormal
    have hlog : m.log2 < 52 := (Nat.log2_lt hpos.ne').mpr (Nat.lt_of_not_le hnormal)
    have hpack : pack Format.binary64 (.finite sign m (-1074) h.pos) =
        packComponents Format.binary64 sign 0#11 (BitVec.ofNat 52 m) := by
      unfold pack
      dsimp only
      rw [hbias, if_neg (by decide), if_neg]
      change ¬m.log2 + 1 = 53
      omega
    have hmantissa : (BitVec.ofNat 52 m).toNat = m := by
      rw [BitVec.toNat_ofNat, Nat.mod_eq_of_lt (by omega)]
    have hzeros : BitVec.ofNat 52 m ≠ 0#52 := by
      intro heq
      have heq := congrArg BitVec.toNat heq
      rw [hmantissa] at heq
      exact hpos.ne' heq
    rw [hpack]
    unfold unpack
    dsimp only
    rw [unpackExponent_packComponents, if_neg (by decide), if_pos rfl,
      dif_neg (ne_of_eq_of_ne unpackMantissa_packComponents hzeros), UnpackedFloat.finite.injEq,
      unpackSign_packComponents, unpackMantissa_packComponents]
    exact ⟨ofBitVec_toBitVec sign, hmantissa, rfl⟩

/-- A finite number has its fields from its bits: the mantissa begins with a bit that is not written, unless the exponent
is zero. -/
theorem bits_of_unpack {spec : Format} {b : BitVec spec.numBits} {sign : Sign} {m : Nat} {e : Int} {hm : 0 < m}
    (h : unpack spec b = .finite sign m e hm) :
    (m = (unpackMantissa b).toNat ∧ e = 1 - (spec.exponentBias + spec.mantissaBitsWithoutImplicit)) ∨
      (m = (1#1 ++ unpackMantissa b).toNat ∧ unpackExponent b ≠ 0#_ ∧ unpackExponent b ≠ -1#_ ∧
        e = (unpackExponent b).toNat - (spec.exponentBias + spec.mantissaBitsWithoutImplicit)) := by
  unfold unpack at h
  dsimp only at h
  by_cases hones : unpackExponent b = -1#_
  · rw [if_pos hones] at h
    rcases ite_eq_iff.mp h with ⟨_, h⟩ | ⟨_, h⟩ <;> cases h
  rw [if_neg hones] at h
  rcases ite_eq_iff.mp h with ⟨hzeros, h⟩ | ⟨hzeros, h⟩
  · rcases dite_eq_iff.mp h with ⟨_, h⟩ | ⟨_, h⟩
    · cases h
    · injection h with _ hm he
      refine .inl ⟨hm.symm, ?_⟩
      rw [← he, hzeros, BitVec.toNat_ofNat, Nat.zero_mod]
      omega
  · injection h with _ hm he
    exact .inr ⟨hm.symm, hzeros, hones, he.symm⟩

theorem canonical_of_unpack {b : BitVec Format.binary64.numBits} {sign : Sign} {m : Nat} {e : Int} {hm : 0 < m}
    (h : unpack Format.binary64 b = .finite sign m e hm) : Canonical m e := by
  have hexponent : (unpackExponent b).toNat < 2 ^ 11 := (unpackExponent b).isLt
  have hmantissa : (unpackMantissa b).toNat < 2 ^ 52 := (unpackMantissa b).isLt
  rcases bits_of_unpack h with ⟨rfl, rfl⟩ | ⟨heq, hzeros, hones, he⟩
  · exact ⟨hm, by omega, by decide, by decide, .inl rfl⟩
  · have hones : (unpackExponent b).toNat ≠ 2047 := fun heq => hones (BitVec.eq_of_toNat_eq heq)
    have hzeros : (unpackExponent b).toNat ≠ 0 := fun heq => hzeros (BitVec.eq_of_toNat_eq heq)
    rw [toNat_implicit] at heq
    change e = ((unpackExponent b).toNat : Int) - (1023 + 52) at he
    exact ⟨by omega, by omega, by omega, by omega, .inr (by omega)⟩

/-! ### Numbers -/

variable {x y : Float} {sign : Sign} {m : Nat} {e : Int} {hm : 0 < m}

theorem canonical_of_fields (h : fields x = .finite sign m e hm) : Canonical m e :=
  canonical_of_unpack h

theorem fields_neg_finite (h : fields x = .finite sign m e hm) : fields (-x) = .finite (-sign) m e hm := by
  have hunpack : fields (-x) = unpack Format.binary64 (pack Format.binary64 (fields x).neg) := rfl
  rw [hunpack, h]
  exact (canonical_of_fields h).unpack_pack (-sign)

theorem fields_neg_zero (h : fields x = .zero sign) : fields (-x) = .zero (-sign) := by
  have hunpack : fields (-x) = unpack Format.binary64 (pack Format.binary64 (fields x).neg) := rfl
  rw [hunpack, h]
  exact unpack_packedZero (-sign)

/-! ### Equality -/

theorem compare_finite {s s' : Sign} {m m' : Nat} {e e' : Int} {hm : 0 < m} {hm' : 0 < m'} :
    UnpackedFloat.compare (.finite s m e hm) (.finite s' m' e' hm') = some .eq ↔ s = s' ∧ m = m' ∧ e = e' := by
  cases s <;> cases s' <;> dsimp only [UnpackedFloat.compare] <;>
    simp [Ordering.then_eq_eq, and_comm, Ordering.swap_eq_eq]

/-- Two numbers are equal if both are zeros, or if they have the same fields and these are those of a number. -/
theorem beq_iff {x y : Float} : (x == y) = true ↔
    ((∃ sign, fields x = .zero sign) ∧ ∃ sign, fields y = .zero sign) ∨
      fields x = fields y ∧ fields x ≠ .notANumber := by
  have hcompare : (x == y) = ((fields x).compare (fields y) == some .eq) := rfl
  rw [hcompare, beq_iff_eq]
  generalize fields x = a
  generalize fields y = b
  have hdiffer (hzeros : ¬((∃ sign, a = .zero sign) ∧ ∃ sign, b = .zero sign)) (hne : a ≠ b) :
      ¬(((∃ sign, a = .zero sign) ∧ ∃ sign, b = .zero sign) ∨ a = b ∧ a ≠ .notANumber) :=
    not_or.mpr ⟨hzeros, fun h => hne h.1⟩
  cases a with
  | notANumber =>
    dsimp only [UnpackedFloat.compare]
    simp
  | infinity s =>
    cases b with
    | infinity s' => cases s <;> cases s' <;> dsimp only [UnpackedFloat.compare] <;> simp <;> decide
    | _ => exact iff_of_false (by cases s <;> nofun) (hdiffer nofun nofun)
  | zero s =>
    cases b with
    | zero s' =>
      dsimp only [UnpackedFloat.compare]
      simp
    | infinity s' => exact iff_of_false (by cases s' <;> nofun) (hdiffer nofun nofun)
    | finite s' m e hm => exact iff_of_false (by cases s' <;> nofun) (hdiffer nofun nofun)
    | notANumber => exact iff_of_false nofun (hdiffer nofun nofun)
  | finite s m e hm =>
    cases b with
    | finite s' m' e' hm' =>
      rw [compare_finite, or_iff_right (by nofun), UnpackedFloat.finite.injEq]
      exact (and_iff_left (by nofun)).symm
    | infinity s' => exact iff_of_false (by cases s <;> cases s' <;> nofun) (hdiffer nofun nofun)
    | _ => exact iff_of_false (by cases s <;> nofun) (hdiffer nofun nofun)

theorem beq_of_fields_finite (hx : fields x = .finite sign m e hm) (hy : fields y = .finite sign m e hm) :
    (x == y) = true :=
  beq_iff.mpr (.inr ⟨hx.trans hy.symm, by rw [hx]; nofun⟩)

theorem beq_of_fields_zero {sign' : Sign} (hx : fields x = .zero sign) (hy : fields y = .zero sign') :
    (x == y) = true :=
  beq_iff.mpr (.inl ⟨⟨sign, hx⟩, sign', hy⟩)

theorem beq_symm {x y : Float} (h : (x == y) = true) : (y == x) = true := by
  rw [beq_iff] at h ⊢
  rcases h with ⟨hx, hy⟩ | ⟨heq, hne⟩
  · exact .inl ⟨hy, hx⟩
  · exact .inr ⟨heq.symm, heq ▸ hne⟩

theorem beq_trans {x y z : Float} (h : (x == y) = true) (h' : (y == z) = true) : (x == z) = true := by
  rw [beq_iff] at h h' ⊢
  rcases h with ⟨hx, hy⟩ | ⟨heq, hne⟩
  · rcases h' with ⟨_, hz⟩ | ⟨heq', _⟩
    · exact .inl ⟨hx, hz⟩
    · exact .inl ⟨hx, heq' ▸ hy⟩
  · rw [heq] at hne ⊢
    exact h'.imp_right fun ⟨heq', _⟩ => ⟨heq', hne⟩

end GeoFilter.Floating
