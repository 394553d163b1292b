import GeoFilter.Proofs.Rounding.Extended

/-!
# The order of numbers of all kinds

Numbers are compared by their exact values, but for one case: an integer is compared with a number of floating point in
double precision, and is equal to whatever it is rounded to.
-/

namespace GeoFilter

namespace Number

open Floating (IsNearest)

def value? : Number → Option ℚ
  | .integer n => some n.toInt
  | .long n => some n.toInt
  | .float x => Floating.value? (Floating.fields32 x)
  | .double x => Floating.value? (Floating.fields x)

/-- Whether a number is an integer and another, of floating point, is what it is rounded to in double precision without
being of the same value. -/
def Blurs (a b : Number) : Prop :=
  ∃ (n : Int) (w : ℚ), a.toInt? = some n ∧ b.toInt? = none ∧ b.value? = some w ∧
    Floating.value? (Floating.fields (Floating.ofInt n)) = some w ∧ w ≠ n

variable {a b c : Number} {v w : ℚ} {m n : Int}

/-! ### Conversion to double precision -/

theorem value_of_toInt (h : a.toInt? = some n) : a.value? = some (n : ℚ) := by
  cases a <;> cases h <;> rfl

theorem toFloat_of_toInt (h : a.toInt? = some n) : a.toFloat = Floating.ofInt n := by
  cases a <;> cases h <;> rfl

theorem natAbs_of_toInt (h : a.toInt? = some n) : n.natAbs < 2 ^ 64 := by
  cases a with
  | integer k =>
    cases h
    have hlow := k.le_toInt
    have hhigh := k.toInt_lt
    omega
  | long k =>
    cases h
    have hlow := k.le_toInt
    have hhigh := k.toInt_lt
    omega
  | float | double => cases h

theorem value_toFloat (h : a.toInt? = none) (ha : a.value? = some v) :
    Floating.value? (Floating.fields a.toFloat) = some v := by
  cases a with
  | integer | long => cases h
  | float x => exact Floating.value_widen ha
  | double x => exact ha

theorem isNearest_toFloat (ha : a.value? = some v) : IsNearest a.toFloat v := by
  cases h : a.toInt? with
  | none =>
    refine ⟨v, value_toFloat h ha, fun y w _ => ?_⟩
    rw [sub_self, abs_zero]
    exact abs_nonneg _
  | some n =>
    obtain rfl : (n : ℚ) = v := Option.some.inj ((value_of_toInt h).symm.trans ha)
    rw [toFloat_of_toInt h]
    exact Floating.isNearest_ofInt (natAbs_of_toInt h)

theorem exists_value_toFloat (ha : a.value? = some v) :
    ∃ r, Floating.value? (Floating.fields a.toFloat) = some r :=
  (isNearest_toFloat ha).imp fun _ h => h.1

/-! ### Comparison -/

theorem compare_of_ints (ha : a.toInt? = some m) (hb : b.toInt? = some n) : a.compare? b = some (compare m n) := by
  rw [compare?, ha, hb]

theorem compare_of_floating (h : a.toInt? = none ∨ b.toInt? = none) {r s : ℚ}
    (ha : Floating.value? (Floating.fields a.toFloat) = some r)
    (hb : Floating.value? (Floating.fields b.toFloat) = some s) : a.compare? b = some (compare r s) := by
  have hfloats : a.compare? b = Floating.compare? a.toFloat b.toFloat := by
    unfold compare?
    split
    case h_1 m n hm hn =>
      rcases h with h | h
      · cases h.symm.trans hm
      · cases h.symm.trans hn
    case h_2 => rfl
  rw [hfloats, Floating.compare_eq_of_values ha hb]

theorem compare_swap (a b : Number) : b.compare? a = (a.compare? b).map Ordering.swap := by
  unfold compare?
  cases a.toInt? with
  | none => cases b.toInt? <;> exact Floating.compare_swap _ _
  | some m =>
    cases b.toInt? with
    | none => exact Floating.compare_swap _ _
    | some n => exact congrArg some Std.OrientedOrd.eq_swap

theorem compare_intCast (m n : Int) : compare (m : ℚ) n = compare m n := by
  rw [← cmp_eq_compare, ← cmp_eq_compare]
  exact Int.cast_strictMono.cmp_map_eq m n

theorem blurs_of_value_ne (hn : a.toInt? = some n) (hb : b.toInt? = none) (hw : b.value? = some w)
    (hround : Floating.value? (Floating.fields a.toFloat) = some w) (hne : w ≠ n) : a.Blurs b :=
  ⟨n, w, hn, hb, hw, toFloat_of_toInt hn ▸ hround, hne⟩

/-- An integer and a number of floating point are compared as their values are, unless the integer blurs. -/
theorem compare_rounded (hn : a.toInt? = some n) (hb : b.toInt? = none) (hw : b.value? = some w) :
    ∃ r, Floating.value? (Floating.fields a.toFloat) = some r ∧ (compare r w = compare (n : ℚ) w ∨ a.Blurs b) := by
  have hnearest := isNearest_toFloat (value_of_toInt hn)
  obtain ⟨r, hr⟩ := exists_value_toFloat (value_of_toInt hn)
  refine ⟨r, hr, ?_⟩
  by_cases hrw : r = w
  · subst hrw
    by_cases hexact : r = n
    · exact .inl (by rw [hexact])
    · exact .inr (blurs_of_value_ne hn hb hw hr hexact)
  · exact .inl (hnearest.compare_eq hr (value_toFloat hb hw) hrw)

theorem Blurs.compare_eq (h : a.Blurs b) : a.compare? b = some .eq ∧ b.compare? a = some .eq := by
  obtain ⟨n, w, hn, hb, hw, hround, _⟩ := h
  rw [← toFloat_of_toInt hn] at hround
  have hfloat := value_toFloat hb hw
  have heq : compare w w = .eq := compare_eq_iff_eq.mpr rfl
  rw [compare_of_floating (.inr hb) hround hfloat, compare_of_floating (.inl hb) hfloat hround, heq]
  exact ⟨rfl, rfl⟩

theorem Blurs.value_ne (h : a.Blurs b) (ha : a.value? = some v) (hb : b.value? = some w) : v ≠ w := by
  obtain ⟨n, w', hn, _, hw, _, hne⟩ := h
  obtain rfl : (n : ℚ) = v := Option.some.inj ((value_of_toInt hn).symm.trans ha)
  obtain rfl : w' = w := Option.some.inj (hw.symm.trans hb)
  exact hne.symm

theorem compare_exact_or_blurs (ha : a.value? = some v) (hb : b.value? = some w) :
    a.compare? b = some (compare v w) ∨ a.Blurs b ∨ b.Blurs a := by
  cases hm : a.toInt? with
  | some m =>
    obtain rfl : (m : ℚ) = v := Option.some.inj ((value_of_toInt hm).symm.trans ha)
    cases hn : b.toInt? with
    | some n =>
      obtain rfl : (n : ℚ) = w := Option.some.inj ((value_of_toInt hn).symm.trans hb)
      rw [compare_of_ints hm hn, compare_intCast]
      exact .inl rfl
    | none =>
      obtain ⟨r, hr, hsame | hblurs⟩ := compare_rounded hm hn hb
      · rw [compare_of_floating (.inr hn) hr (value_toFloat hn hb), hsame]
        exact .inl rfl
      · exact .inr (.inl hblurs)
  | none =>
    cases hn : b.toInt? with
    | some n =>
      obtain rfl : (n : ℚ) = w := Option.some.inj ((value_of_toInt hn).symm.trans hb)
      obtain ⟨r, hr, hsame | hblurs⟩ := compare_rounded hn hm ha
      · rw [compare_of_floating (.inl hm) (value_toFloat hm ha) hr, Std.OrientedOrd.eq_swap, hsame,
          ← Std.OrientedOrd.eq_swap]
        exact .inl rfl
      · exact .inr (.inr hblurs)
    | none =>
      exact .inl (compare_of_floating (.inl hm) (value_toFloat hm ha) (value_toFloat hn hb))

theorem Blurs.lt_natAbs (h : a.Blurs b) (hn : a.toInt? = some n) : 2 ^ 53 < n.natAbs := by
  obtain ⟨n', w, hn', _, _, hround, hne⟩ := h
  obtain rfl : n' = n := Option.some.inj (hn'.symm.trans hn)
  by_contra hle
  obtain ⟨y, hy⟩ := Floating.exists_value_eq (Nat.le_of_not_lt hle)
  obtain ⟨r, hr, hnearest⟩ := Floating.isNearest_ofInt (natAbs_of_toInt hn)
  obtain rfl : r = w := Option.some.inj (hr.symm.trans hround)
  have hexact := hnearest y _ hy
  rw [sub_self, abs_zero] at hexact
  exact hne (sub_eq_zero.mp (abs_nonpos_iff.mp hexact)).symm

theorem value_toFloat_of_compare_eq (ha : a.value? = some v) (hb : b.value? = some w)
    (h : a.compare? b = some .eq) :
    Floating.value? (Floating.fields a.toFloat) = Floating.value? (Floating.fields b.toFloat) := by
  obtain ⟨r, hr⟩ := exists_value_toFloat ha
  obtain ⟨s, hs⟩ := exists_value_toFloat hb
  by_cases hfloating : a.toInt? = none ∨ b.toInt? = none
  · rw [compare_of_floating hfloating hr hs, Option.some_inj, compare_eq_iff_eq] at h
    rw [hr, hs, h]
  · obtain ⟨hm, hn⟩ := not_or.mp hfloating
    obtain ⟨m, hm⟩ := Option.ne_none_iff_exists'.mp hm
    obtain ⟨n, hn⟩ := Option.ne_none_iff_exists'.mp hn
    rw [compare_of_ints hm hn, Option.some_inj, compare_eq_iff_eq] at h
    rw [toFloat_of_toInt hm, toFloat_of_toInt hn, h]

/-- Two numbers that equal a third one are equal, unless one of them is rounded to it. -/
theorem compare_eq_trans {u : ℚ} (ha : a.value? = some v) (hb : b.value? = some w) (hc : c.value? = some u)
    (hab : a.compare? b = some .eq) (hbc : b.compare? c = some .eq) (hna : ¬a.Blurs b) (hnc : ¬c.Blurs b) :
    a.compare? c = some .eq := by
  have hsame := value_toFloat_of_compare_eq ha hb hab
  have hsame' := value_toFloat_of_compare_eq hb hc hbc
  by_cases hfloating : a.toInt? = none ∨ c.toInt? = none
  · obtain ⟨r, hr⟩ := exists_value_toFloat ha
    rw [compare_of_floating hfloating hr (hsame' ▸ hsame ▸ hr), compare_eq_iff_eq.mpr rfl]
  · obtain ⟨hm, hk⟩ := not_or.mp hfloating
    obtain ⟨m, hm⟩ := Option.ne_none_iff_exists'.mp hm
    obtain ⟨k, hk⟩ := Option.ne_none_iff_exists'.mp hk
    suffices hmk : m = k by rw [compare_of_ints hm hk, hmk, compare_eq_iff_eq.mpr rfl]
    cases hn : b.toInt? with
    | some n =>
      rw [compare_of_ints hm hn, Option.some_inj, compare_eq_iff_eq] at hab
      rw [compare_of_ints hn hk, Option.some_inj, compare_eq_iff_eq] at hbc
      exact hab.trans hbc
    | none =>
      have hround := value_toFloat hn hb
      have hwm : w = m := by_contra fun hne => hna (blurs_of_value_ne hm hn hb (hsame.trans hround) hne)
      have hwk : w = k := by_contra fun hne => hnc (blurs_of_value_ne hk hn hb (hsame'.symm.trans hround) hne)
      exact Int.cast_injective (hwm.symm.trans hwk)

/-- **Numbers are compared by value, unless one is rounded to the other.**  The order of two finite numbers is that of
their exact values if and only if neither is an integer that blurs into the other one; if one does, they are equal.
Only integers of more than 53 bits blur, and into no other number than the nearest one of double precision.  Equality
goes on from number to number as long as the number in the middle is not one that others are rounded to. -/
theorem compare_iff_exact (ha : a.value? = some v) (hb : b.value? = some w) :
    (a.compare? b = some (compare v w) ↔ ¬(a.Blurs b ∨ b.Blurs a)) ∧
    (a.Blurs b ∨ b.Blurs a → a.compare? b = some .eq) ∧
    (∀ n, a.toInt? = some n → a.Blurs b → 2 ^ 53 < n.natAbs) ∧
    IsNearest a.toFloat v ∧
    ∀ c u, c.value? = some u → a.compare? b = some .eq → b.compare? c = some .eq → ¬a.Blurs b → ¬c.Blurs b →
      a.compare? c = some .eq := by
  have hequal : a.Blurs b ∨ b.Blurs a → a.compare? b = some .eq :=
    fun h => h.elim (fun h => h.compare_eq.1) fun h => h.compare_eq.2
  refine ⟨⟨fun hexact hblurs => ?_, fun hnot => (compare_exact_or_blurs ha hb).resolve_right hnot⟩, hequal,
    fun n hn hblurs => hblurs.lt_natAbs hn, isNearest_toFloat ha,
    fun c u hc hab hbc hna hnc => compare_eq_trans ha hb hc hab hbc hna hnc⟩
  rw [hequal hblurs, Option.some_inj] at hexact
  have hvw : v = w := compare_eq_iff_eq.mp hexact.symm
  rcases hblurs with h | h
  · exact h.value_ne ha hb hvw
  · exact h.value_ne hb ha hvw.symm

/-- An integer that double precision does not hold, before the next number that it holds. -/
theorem compare_iff_exact_long :
    let a : Number := .long 9007199254740993
    let b : Number := .double 9007199254740994.0
    a.value? = some 9007199254740993 ∧ b.value? = some 9007199254740994 ∧ ¬(a.Blurs b ∨ b.Blurs a) ∧
      a.compare? b = some .lt := by
  intro a b
  have ha : a.value? = some 9007199254740993 := rfl
  have hb : b.value? = some 9007199254740994 := by
    have hfields : Floating.fields 9007199254740994.0 = .finite .positive 4503599627370497 1 (by decide) := rfl
    rw [value?, hfields, Floating.value_positive]
    norm_num
  have hcompare : a.compare? b = some .lt := by decide +kernel
  refine ⟨ha, hb, (compare_iff_exact ha hb).1.mp ?_, hcompare⟩
  rw [hcompare, compare_lt_iff_lt.mpr (by norm_num)]

/-- The same integer is equal to the number of double precision below it, which is equal to an integer below. -/
theorem compare_rounded_long :
    let a : Number := .long 9007199254740993
    let b : Number := .double 9007199254740992.0
    let c : Number := .long 9007199254740992
    a.value? = some 9007199254740993 ∧ b.value? = some 9007199254740992 ∧ c.value? = some 9007199254740992 ∧
      a.compare? b = some .eq ∧ a.compare? b ≠ some (compare (9007199254740993 : ℚ) 9007199254740992) ∧
      b.compare? c = some .eq ∧ a.compare? c = some .gt := by
  intro a b c
  have hb : b.value? = some 9007199254740992 := by
    have hfields : Floating.fields 9007199254740992.0 = .finite .positive 4503599627370496 1 (by decide) := rfl
    rw [value?, hfields, Floating.value_positive]
    norm_num
  have hcompare : a.compare? b = some .eq := by decide +kernel
  refine ⟨rfl, hb, rfl, hcompare, ?_, by decide +kernel, by decide +kernel⟩
  rw [hcompare, compare_gt_iff_gt.mpr (by norm_num)]
  decide

end Number

end GeoFilter
