import GeoFilter.Evaluation
import GeoFilter.Proofs.Numeral
import Mathlib.Algebra.Ring.Int.Defs

/-!
# Arithmetic on integers

Sums, differences and products of integers are calculated exactly.  A calculation that leaves the 64 bits of a
number has no value, wherever in an expression it stands: it is neither wrapped around nor carried on in double
precision.
-/

namespace GeoFilter

/-! ### One calculation -/

theorem Decimal.int64?_of_fits {n : Int} (hlow : -2 ^ 63 ≤ n) (hhigh : n < 2 ^ 63) :
    ∃ k, int64? n = some k ∧ k.toInt = n := by
  refine ⟨Int64.ofInt n, ?_, Numeral.toInt_int64 (by omega) (by omega)⟩
  exact if_pos (by omega)

theorem Decimal.int64?_of_not_fits {n : Int} (hout : ¬ (-2 ^ 63 ≤ n ∧ n < 2 ^ 63)) : int64? n = none :=
  if_neg (by omega)

namespace ArithmeticOp

variable {op : ArithmeticOp} {a b : Number} {m n k : Int}

/-- Of two integers of any kinds, the exact result counts, and only whether it fits. -/
theorem apply_of_ints (ha : a.toInt? = some m) (hb : b.toInt? = some n) (hk : op.onInts? m n = some k) :
    op.apply a b = (Decimal.int64? k).map .long := by
  have hexact : (do op.onInts? (← a.toInt?) (← b.toInt?)) = some k := by rw [ha, hb]; exact hk
  rw [apply, hexact]

theorem apply_exact (ha : a.toInt? = some m) (hb : b.toInt? = some n) (hk : op.onInts? m n = some k)
    (hfits : -2 ^ 63 ≤ k ∧ k < 2 ^ 63) : ∃ v, op.apply a b = some v ∧ v.toInt? = some k := by
  obtain ⟨w, hw, hwk⟩ := Decimal.int64?_of_fits hfits.1 hfits.2
  refine ⟨.long w, ?_, congrArg some hwk⟩
  rw [apply_of_ints ha hb hk, hw]
  rfl

theorem apply_overflow (ha : a.toInt? = some m) (hb : b.toInt? = some n) (hk : op.onInts? m n = some k)
    (hout : ¬ (-2 ^ 63 ≤ k ∧ k < 2 ^ 63)) : op.apply a b = none := by
  rw [apply_of_ints ha hb hk, Decimal.int64?_of_not_fits hout]
  rfl

end ArithmeticOp

/-! ### Trees of calculations -/

namespace Expression

variable (feature : Feature)

/-- The value that an expression has in the integers: it is made with `+`, `-` and `*` of integer literals and of
attributes that are integers in the feature.  Other expressions have none. -/
def integer? : Expression → Option Int
  | .literal (.number v) => v.toInt?
  | .property path =>
    match feature.property path with
    | some (.number v) => v.toInt?
    | _ => none
  | .arithmetic .add left right => do return (← integer? left) + (← integer? right)
  | .arithmetic .sub left right => do return (← integer? left) - (← integer? right)
  | .arithmetic .mul left right => do return (← integer? left) * (← integer? right)
  | _ => none

/-- The calculations in an expression that is made with arithmetic operators, itself first. -/
def calculations : Expression → List Expression
  | .arithmetic op left right => .arithmetic op left right :: (left.calculations ++ right.calculations)
  | _ => []

/-- All calculations of the expression have an exact value of 64 bits. -/
def StaysInRange (x : Expression) : Prop :=
  ∀ y ∈ x.calculations, ∀ n ∈ y.integer? feature, -2 ^ 63 ≤ n ∧ n < 2 ^ 63

instance (x : Expression) : Decidable (x.StaysInRange feature) :=
  inferInstanceAs (Decidable (∀ y ∈ x.calculations, ∀ n ∈ y.integer? feature, -2 ^ 63 ≤ n ∧ n < 2 ^ 63))

variable {feature}

/-- Arithmetic with an exact value has operands with exact values, that the operator takes to it. -/
theorem integer?_arithmetic {op : ArithmeticOp} {left right : Expression} {k : Int}
    (h : (arithmetic op left right).integer? feature = some k) :
    ∃ m n, left.integer? feature = some m ∧ right.integer? feature = some n ∧ op.onInts? m n = some k := by
  cases op with
  | div => cases h
  | add | sub | mul =>
    rw [integer?] at h
    obtain ⟨m, hm, h⟩ := Option.bind_eq_some_iff.mp h
    obtain ⟨n, hn, h⟩ := Option.bind_eq_some_iff.mp h
    exact ⟨m, n, hm, hn, h⟩

theorem staysInRange_arithmetic {op : ArithmeticOp} {left right : Expression} {k : Int}
    (hk : (arithmetic op left right).integer? feature = some k) :
    (arithmetic op left right).StaysInRange feature ↔
      (-2 ^ 63 ≤ k ∧ k < 2 ^ 63) ∧ left.StaysInRange feature ∧ right.StaysInRange feature := by
  have hhead : (∀ n ∈ (arithmetic op left right).integer? feature, -2 ^ 63 ≤ n ∧ n < 2 ^ 63) ↔
      -2 ^ 63 ≤ k ∧ k < 2 ^ 63 := by
    constructor
    · intro h
      exact h k hk
    · intro h n hn
      rwa [← Option.some.inj (hk.symm.trans hn)]
  rw [StaysInRange, calculations, List.forall_mem_cons, List.forall_mem_append, hhead]
  rfl

/-- Arithmetic is calculated if both operands are numbers, and has no value if one of them has none. -/
theorem evaluate_arithmetic {op : ArithmeticOp} {left right : Expression} {a b : Number}
    (hleft : left.evaluate feature = .ok (some (.number a)))
    (hright : right.evaluate feature = .ok (some (.number b))) :
    (arithmetic op left right).evaluate feature = .ok ((op.apply a b).map .number) := by
  rw [evaluate, hleft, hright]
  rfl

theorem evaluate_arithmetic_none {op : ArithmeticOp} {left right : Expression} {v w : Option Literal}
    (hleft : left.evaluate feature = .ok v) (hright : right.evaluate feature = .ok w) (hnone : v = none ∨ w = none) :
    (arithmetic op left right).evaluate feature = .ok none := by
  rw [evaluate, hleft, hright]
  rcases hnone with rfl | rfl
  · rfl
  · rcases v with _ | a
    · rfl
    · dsimp only [bind, Except.bind, Option.bind_some, Option.bind_none]
      cases a.toNumber? <;> rfl

theorem evaluate_leaf {x : Expression} {k : Int} (hleaf : ∀ op left right, x ≠ .arithmetic op left right)
    (h : x.integer? feature = some k) : ∃ v, x.evaluate feature = .ok (some (.number v)) ∧ v.toInt? = some k := by
  cases x with
  | arithmetic op left right => exact absurd rfl (hleaf op left right)
  | function name args => cases h
  | literal value =>
    cases value with
    | number v => exact ⟨v, rfl, h⟩
    | _ => cases h
  | property path =>
    rw [integer?] at h
    split at h
    case h_1 v hv => exact ⟨v, congrArg Except.ok hv, h⟩
    case h_2 => cases h

theorem staysInRange_leaf {x : Expression} (hleaf : ∀ op left right, x ≠ .arithmetic op left right) :
    x.StaysInRange feature := by
  cases x with
  | arithmetic op left right => exact absurd rfl (hleaf op left right)
  | _ => exact fun y hy => absurd hy List.not_mem_nil

/-- One of two things happens to an expression with an exact value.  The second goes through all operators around it,
whatever becomes of their other operands. -/
theorem evaluate_exact_or_none {x : Expression} {k : Int} (h : x.integer? feature = some k) :
    (x.StaysInRange feature ∧ ∃ v, x.evaluate feature = .ok (some (.number v)) ∧ v.toInt? = some k) ∨
      (¬ x.StaysInRange feature ∧ x.evaluate feature = .ok none) := by
  induction x using calculations.induct generalizing k with
  | case2 x hleaf => exact .inl ⟨staysInRange_leaf hleaf, evaluate_leaf hleaf h⟩
  | case1 op left right ihleft ihright =>
    obtain ⟨m, n, hm, hn, hop⟩ := integer?_arithmetic h
    rw [staysInRange_arithmetic h]
    rcases ihleft hm with ⟨hl, a, hleft, ha⟩ | ⟨hl, hleft⟩ <;>
      rcases ihright hn with ⟨hr, b, hright, hb⟩ | ⟨hr, hright⟩
    · rw [evaluate_arithmetic hleft hright]
      by_cases hfits : -2 ^ 63 ≤ k ∧ k < 2 ^ 63
      · obtain ⟨v, hv, hvk⟩ := ArithmeticOp.apply_exact ha hb hop hfits
        rw [hv]
        exact .inl ⟨⟨hfits, hl, hr⟩, v, rfl, hvk⟩
      · rw [ArithmeticOp.apply_overflow ha hb hop hfits]
        exact .inr ⟨fun hrange => hfits hrange.1, rfl⟩
    · exact .inr ⟨fun hrange => hr hrange.2.2, evaluate_arithmetic_none hleft hright (.inr rfl)⟩
    · exact .inr ⟨fun hrange => hl hrange.2.1, evaluate_arithmetic_none hleft hright (.inl rfl)⟩
    · exact .inr ⟨fun hrange => hl hrange.2.1, evaluate_arithmetic_none hleft hright (.inl rfl)⟩

/-- An expression made of integers with `+`, `-` and `*` has its exact value, if no calculation in it leaves the 64
bits of a number; otherwise it has no value. -/
theorem evaluate_integers {x : Expression} {k : Int} (h : x.integer? feature = some k) :
    (x.StaysInRange feature → ∃ v, x.evaluate feature = .ok (some (.number v)) ∧ v.toInt? = some k) ∧
      (¬ x.StaysInRange feature → x.evaluate feature = .ok none) := by
  rcases evaluate_exact_or_none h with ⟨hrange, hvalue⟩ | ⟨hout, hnone⟩
  · exact ⟨fun _ => hvalue, fun hout => absurd hrange hout⟩
  · exact ⟨fun hrange => absurd hrange hout, fun _ => hnone⟩

/-- A feature with the largest number of 64 bits and the smallest of 32 bits. -/
def extremes : Feature :=
  .ofProperties "roads.7" [("total", .number (.long 9223372036854775807)), ("floor", .number (.integer (-2147483648)))]

/-- The two attributes are added within 64 bits.  One more than the total has no value, although what is taken from
it again would bring it back. -/
theorem evaluate_integers_extremes :
    (∃ v, (arithmetic .add (.property ⟨["total"]⟩) (.property ⟨["floor"]⟩)).evaluate extremes = .ok (some (.number v)) ∧
      v.toInt? = some 9223372034707292159) ∧
    (arithmetic .sub (arithmetic .add (.property ⟨["total"]⟩) (.literal (.number (.integer 1))))
      (.literal (.number (.integer 1)))).evaluate extremes = .ok none :=
  ⟨(evaluate_integers (by decide +kernel)).1 (by decide +kernel),
    (evaluate_integers (k := 9223372036854775807) (by decide +kernel)).2 (by decide +kernel)⟩

end Expression

end GeoFilter
