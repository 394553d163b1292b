import GeoFilter.Proofs.Equality
import GeoFilter.Proofs.Evaluation
import GeoFilter.Proofs.NumberOrder

/-!
# The order of values

Two values of whatever kinds have an order, or none: a geometry has none to anything but an equal geometry, and what is
not a number has none to a number.  Read the other way round the order is the opposite one, so each operator of
comparison holds of two values where the mirrored one holds of them the other way round.
-/

namespace GeoFilter

/-! ### The order the other way round -/

namespace Literal

def compareNumbers? (a b : Literal) : Option Ordering :=
  match a.toNumber?, b.toNumber? with
  | some m, some n => m.compare? n
  | _, _ => none

theorem compareNumbers_swap (a b : Literal) : b.compareNumbers? a = (a.compareNumbers? b).map Ordering.swap := by
  unfold compareNumbers?
  cases a.toNumber? with
  | none => cases b.toNumber? <;> rfl
  | some m =>
    cases b.toNumber? with
    | none => rfl
    | some n => exact m.compare_swap n

/-- Whether two values are ordered as numbers: no two texts, no two truth values and no geometry. -/
structure AsNumbers (a b : Literal) : Prop where
  strings : ∀ s s', a = .string s → b ≠ .string s'
  booleans : ∀ t t', a = .boolean t → b ≠ .boolean t'
  left : ∀ g, a ≠ .geometry g
  right : ∀ g, b ≠ .geometry g

namespace AsNumbers

variable {a b : Literal}

theorem symm (h : AsNumbers a b) : AsNumbers b a :=
  ⟨fun s s' hb ha => h.strings s' s ha hb, fun t t' hb ha => h.booleans t' t ha hb, h.right, h.left⟩

theorem compare_eq (h : AsNumbers a b) : a.compare? b = a.compareNumbers? b := by
  unfold compare?
  split
  case h_1 s s' => exact absurd rfl (h.strings s s' rfl)
  case h_2 t t' => exact absurd rfl (h.booleans t t' rfl)
  case h_3 g _ => exact absurd rfl (h.left g)
  case h_4 _ g _ => exact absurd rfl (h.left g)
  case h_5 g _ => exact absurd rfl (h.right g)
  case h_6 => rfl

theorem compare_swap (h : AsNumbers a b) : b.compare? a = (a.compare? b).map Ordering.swap := by
  rw [h.compare_eq, h.symm.compare_eq, compareNumbers_swap]

end AsNumbers

/-- The other way round the order is the opposite one, of whatever kinds the values are. -/
theorem compare_swap (a b : Literal) : b.compare? a = (a.compare? b).map Ordering.swap := by
  cases a with
  | number n =>
    cases b with
    | geometry g => rfl
    | _ => exact AsNumbers.compare_swap ⟨nofun, nofun, nofun, nofun⟩
  | string s =>
    cases b with
    | string s' => exact congrArg some Std.OrientedOrd.eq_swap
    | geometry g => rfl
    | _ => exact AsNumbers.compare_swap ⟨nofun, nofun, nofun, nofun⟩
  | boolean t =>
    cases b with
    | boolean t' => exact congrArg some Std.OrientedOrd.eq_swap
    | geometry g => rfl
    | _ => exact AsNumbers.compare_swap ⟨nofun, nofun, nofun, nofun⟩
  | geometry g =>
    cases b with
    | geometry g' =>
      simp only [compare?, Geometry.beq_comm g'.geometry]
      split <;> rfl
    | _ => rfl

end Literal

namespace ComparisonOp

/-- The operator that says the same of two values the other way round. -/
def mirrored : ComparisonOp → ComparisonOp
  | eq => eq
  | notEq => notEq
  | lt => gt
  | ltEq => gtEq
  | gt => lt
  | gtEq => ltEq

theorem holds_mirrored (op : ComparisonOp) (o : Ordering) : op.mirrored.holds o.swap = op.holds o := by
  cases op <;> cases o <;> rfl

end ComparisonOp

namespace Predicate

/-! ### The operators on two values -/

theorem comparisonHolds_mirrored (op : ComparisonOp) (a b : Literal) :
    comparisonHolds op.mirrored b a = comparisonHolds op a b := by
  rw [comparisonHolds, comparisonHolds, a.compare_swap b]
  cases a.compare? b with
  | none => cases op <;> rfl
  | some o => exact op.holds_mirrored o

theorem comparisonHolds_notEq (a b : Literal) : comparisonHolds .notEq a b = !comparisonHolds .eq a b := by
  rw [comparisonHolds, comparisonHolds]
  cases a.compare? b with
  | none => rfl
  | some o => cases o <;> rfl

theorem comparisonHolds_ltEq (a b : Literal) :
    comparisonHolds .ltEq a b = (comparisonHolds .lt a b || comparisonHolds .eq a b) := by
  rw [comparisonHolds, comparisonHolds, comparisonHolds]
  cases a.compare? b with
  | none => rfl
  | some o => cases o <;> rfl

theorem comparisonHolds_gtEq (a b : Literal) :
    comparisonHolds .gtEq a b = (comparisonHolds .gt a b || comparisonHolds .eq a b) := by
  have hltEq := comparisonHolds_ltEq b a
  rwa [← comparisonHolds_mirrored .ltEq, ← comparisonHolds_mirrored .lt, ← comparisonHolds_mirrored .eq] at hltEq

theorem eq_of_comparisonHolds {a b : Literal} : ∀ op ∈ [ComparisonOp.lt, .eq, .gt], ∀ op' ∈ [ComparisonOp.lt, .eq, .gt],
    comparisonHolds op a b = true → comparisonHolds op' a b = true → op = op' := by
  simp only [comparisonHolds]
  cases a.compare? b with
  | none => decide
  | some o => cases o <;> decide

/-! ### The operators on two expressions -/

section Coherence

variable [RegexLibrary] {feature : Feature} {left right : Expression} {l r : Option Literal}

theorem evaluate_comparison_mirrored (op : ComparisonOp) (hleft : left.evaluate feature = .ok l)
    (hright : right.evaluate feature = .ok r) :
    evaluate feature (.comparison op.mirrored right left) = evaluate feature (.comparison op left right) := by
  rw [evaluate_comparison op.mirrored hright hleft, evaluate_comparison op hleft hright]
  cases l with
  | none => cases r <;> rfl
  | some x =>
    cases r with
    | none => rfl
    | some y => exact congrArg Except.ok (comparisonHolds_mirrored op x y)

/-- **Comparisons are coherent.**  On every feature on which two expressions have no error, each operator has a truth of
them, and the mirrored operator has the same truth of them the other way round.  If both have a value, `<>` is the
opposite of `=`, no two of `<`, `=` and `>` hold, and `<=` and `>=` hold where one of the two operators in their names
does, of whatever kinds the values are.  If one has no value, no operator holds. -/
theorem evaluate_comparison_coherent (hleft : left.evaluate feature = .ok l) (hright : right.evaluate feature = .ok r) :
    ∃ truth : ComparisonOp → Bool,
      (∀ op, evaluate feature (.comparison op left right) = .ok (truth op)) ∧
      (∀ op, evaluate feature (.comparison op.mirrored right left) = .ok (truth op)) ∧
      (∀ x y, l = some x → r = some y →
        truth .notEq = !truth .eq ∧
        (∀ op ∈ [ComparisonOp.lt, .eq, .gt], ∀ op' ∈ [ComparisonOp.lt, .eq, .gt],
          truth op = true → truth op' = true → op = op') ∧
        truth .ltEq = (truth .lt || truth .eq) ∧ truth .gtEq = (truth .gt || truth .eq)) ∧
      (l = none ∨ r = none → ∀ op, truth op = false) := by
  refine ⟨fun op => l.any fun x => r.any fun y => comparisonHolds op x y, fun op => evaluate_comparison op hleft hright,
    fun op => ?_, ?_, ?_⟩
  · rw [evaluate_comparison_mirrored op hleft hright, evaluate_comparison op hleft hright]
  · rintro x y rfl rfl
    exact ⟨comparisonHolds_notEq x y, eq_of_comparisonHolds, comparisonHolds_ltEq x y, comparisonHolds_gtEq x y⟩
  · rintro (rfl | rfl) op
    · rfl
    · cases l <;> rfl

end Coherence

/-- A text that writes a number is above a smaller integer, which has no order to a truth value. -/
theorem evaluate_comparison_coherent_kinds :
    let feature := Feature.ofProperties "f.1"
      [("n", .number (.integer 5)), ("seven", .string " 7 "), ("flag", .boolean true)]
    let five : Expression := .property ⟨["n"]⟩
    let seven : Expression := .property ⟨["seven"]⟩
    let flag : Expression := .property ⟨["flag"]⟩
    (five.evaluate feature = .ok (some (.number (.integer 5))) ∧ seven.evaluate feature = .ok (some (.string " 7 ")) ∧
      evaluate feature (.comparison .lt five seven) = .ok true ∧
      evaluate feature (.comparison .gt seven five) = .ok true ∧
      evaluate feature (.comparison .ltEq five seven) = .ok true ∧
      evaluate feature (.comparison .eq five seven) = .ok false) ∧
    flag.evaluate feature = .ok (some (.boolean true)) ∧
      evaluate feature (.comparison .eq five flag) = .ok false ∧
      evaluate feature (.comparison .notEq flag five) = .ok true := by
  intro feature five seven flag
  have hfive : five.evaluate feature = .ok (some (.number (.integer 5))) := rfl
  have hseven : seven.evaluate feature = .ok (some (.string " 7 ")) := rfl
  have hflag : flag.evaluate feature = .ok (some (.boolean true)) := rfl
  refine ⟨⟨hfive, hseven, ?_⟩, hflag, ?_⟩
  · obtain ⟨truth, hops, hmirrored, hvalues, -⟩ := evaluate_comparison_coherent hfive hseven
    obtain ⟨-, hone, hltEq, -⟩ := hvalues _ _ rfl rfl
    have hlt : truth .lt = true := by
      have hholds : evaluate feature (.comparison .lt five seven) = .ok true := by decide +kernel
      exact Except.ok.inj ((hops .lt).symm.trans hholds)
    have heq : truth .eq = false := by
      by_contra heq
      cases hone .lt (by decide) .eq (by decide) hlt (eq_true_of_ne_false heq)
    rw [hlt, Bool.true_or] at hltEq
    exact ⟨hlt ▸ hops .lt, hlt ▸ hmirrored .lt, hltEq ▸ hops .ltEq, heq ▸ hops .eq⟩
  · obtain ⟨truth, hops, hmirrored, hvalues, -⟩ := evaluate_comparison_coherent hfive hflag
    obtain ⟨hnotEq, -⟩ := hvalues _ _ rfl rfl
    have heq : truth .eq = false := by
      have hholds : evaluate feature (.comparison .eq five flag) = .ok false := by decide +kernel
      exact Except.ok.inj ((hops .eq).symm.trans hholds)
    rw [heq, Bool.not_false] at hnotEq
    exact ⟨heq ▸ hops .eq, hnotEq ▸ hmirrored .notEq⟩

end Predicate

end GeoFilter
