import GeoFilter.Evaluation
import GeoFilter.Tree.Factory

/-!
# Evaluating conjunctions and disjunctions

The predicates that AND and OR are made of are evaluated one after the other, until one decides.  A conjunction that
takes in the children of another one has the truth of both, and so has a disjunction.  BETWEEN is the conjunction of
the two comparisons with its bounds.
-/

namespace GeoFilter.Predicate

section Children

variable [RegexLibrary] (feature : Feature)

theorem evaluateAll_append (ps qs : List Predicate) :
    evaluateAll feature (ps ++ qs) =
      (do if ← evaluateAll feature ps then evaluateAll feature qs else return false) := by
  induction ps with
  | nil => rfl
  | cons p ps ih =>
    rw [List.cons_append, evaluateAll, evaluateAll, ih]
    rcases evaluate feature p with e | b
    · rfl
    · cases b <;> rfl

theorem evaluateAny_append (ps qs : List Predicate) :
    evaluateAny feature (ps ++ qs) =
      (do if ← evaluateAny feature ps then return true else evaluateAny feature qs) := by
  induction ps with
  | nil => rfl
  | cons p ps ih =>
    rw [List.cons_append, evaluateAny, evaluateAny, ih]
    rcases evaluate feature p with e | b
    · rfl
    · cases b <;> rfl

theorem evaluateAll_singleton (p : Predicate) : evaluateAll feature [p] = evaluate feature p := by
  rw [evaluateAll]
  rcases evaluate feature p with e | b
  · rfl
  · cases b <;> rfl

theorem evaluateAny_singleton (p : Predicate) : evaluateAny feature [p] = evaluate feature p := by
  rw [evaluateAny]
  rcases evaluate feature p with e | b
  · rfl
  · cases b <;> rfl

theorem evaluateAll_conjuncts (p : Predicate) : evaluateAll feature p.conjuncts = evaluate feature p := by
  cases p with
  | and children => rw [conjuncts, evaluate]
  | _ => exact evaluateAll_singleton feature _

theorem evaluateAny_disjuncts (p : Predicate) : evaluateAny feature p.disjuncts = evaluate feature p := by
  cases p with
  | or children => rw [disjuncts, evaluate]
  | _ => exact evaluateAny_singleton feature _

/-- The conjunction of two predicates is false without a look at the second one, if the first one is. -/
theorem evaluate_flatAnd (p q : Predicate) :
    evaluate feature (flatAnd p q) =
      (do if ← evaluate feature p then evaluate feature q else return false) := by
  rw [flatAnd, evaluate, evaluateAll_append, evaluateAll_conjuncts, evaluateAll_conjuncts]

theorem evaluate_flatOr (ps : List Predicate) : evaluate feature (flatOr ps) = evaluateAny feature ps := by
  have hflat : evaluateAny feature (ps.flatMap disjuncts) = evaluateAny feature ps := by
    induction ps with
    | nil => rfl
    | cons p ps ih => rw [List.flatMap_cons, evaluateAny_append, evaluateAny_disjuncts, ih, evaluateAny]
  rw [← hflat, flatOr]
  split
  case h_1 p hsingle => rw [hsingle, evaluateAny_singleton]
  case h_2 => rw [evaluate]

/-- On every feature, whatever their children are and whichever of them fails, the conjunctions and disjunctions that
take in children are as true as those that do not, and fail for the same reason. -/
theorem evaluate_plain (l r : Predicate) (ps : List Predicate) :
    evaluate feature (TreeFactory.plain.and l r) = evaluate feature (.and [l, r]) ∧
      evaluate feature (TreeFactory.plain.or l r) = evaluate feature (.or [l, r]) ∧
      evaluate feature (TreeFactory.plain.orAll ps) = evaluate feature (.or ps) := by
  have hor (qs : List Predicate) : evaluate feature (flatOr qs) = evaluate feature (.or qs) := by
    rw [evaluate_flatOr, evaluate]
  refine ⟨?_, hor [l, r], hor ps⟩
  show evaluate feature (flatAnd l r) = _
  rw [evaluate_flatAnd, evaluate, evaluateAll, evaluateAll_singleton]

end Children

/-! ### How conjunctions and disjunctions are put together -/

theorem flatAnd_assoc (p q r : Predicate) : flatAnd (flatAnd p q) r = flatAnd p (flatAnd q r) := by
  change Predicate.and (p.conjuncts ++ q.conjuncts ++ r.conjuncts) = .and (p.conjuncts ++ (q.conjuncts ++ r.conjuncts))
  rw [List.append_assoc]

theorem flatOr_pair {p q : Predicate} (hp : p.disjuncts ≠ []) (hq : q.disjuncts ≠ []) :
    flatOr [p, q] = .or (p.disjuncts ++ q.disjuncts) := by
  have hflat : [p, q].flatMap disjuncts = p.disjuncts ++ q.disjuncts := by simp
  rw [flatOr, hflat]
  split
  case h_1 single hsingle =>
    have hlength := congrArg List.length hsingle
    have hp := List.length_pos_iff.mpr hp
    have hq := List.length_pos_iff.mpr hq
    rw [List.length_append, List.length_singleton] at hlength
    omega
  case h_2 => rfl

theorem disjuncts_flatOr_ne_nil {p q : Predicate} (hp : p.disjuncts ≠ []) (hq : q.disjuncts ≠ []) :
    (flatOr [p, q]).disjuncts ≠ [] := by
  rw [flatOr_pair hp hq]
  exact List.append_ne_nil_of_left_ne_nil hp _

theorem flatOr_assoc {p q r : Predicate} (hp : p.disjuncts ≠ []) (hq : q.disjuncts ≠ [])
    (hr : r.disjuncts ≠ []) : flatOr [flatOr [p, q], r] = flatOr [p, flatOr [q, r]] := by
  rw [flatOr_pair (disjuncts_flatOr_ne_nil hp hq) hr, flatOr_pair hp (disjuncts_flatOr_ne_nil hq hr),
    flatOr_pair hp hq, flatOr_pair hq hr, disjuncts, disjuncts, List.append_assoc]

/-! ### Disjuncts that are none themselves -/

theorem flatOr_congr {ps qs : List Predicate} (h : ps.flatMap disjuncts = qs.flatMap disjuncts) :
    flatOr ps = flatOr qs := by
  rw [flatOr, flatOr, h]

theorem flatMap_disjuncts {ps : List Predicate} (h : ∀ p ∈ ps, p.disjuncts = [p]) : ps.flatMap disjuncts = ps := by
  induction ps with
  | nil => rfl
  | cons p ps ih =>
    rw [List.flatMap_cons, h p List.mem_cons_self, ih fun q hq => h q (List.mem_cons_of_mem _ hq), List.singleton_append]

theorem disjuncts_flatOr {ps : List Predicate} (h : ∀ p ∈ ps, p.disjuncts = [p]) : (flatOr ps).disjuncts = ps := by
  rw [flatOr, flatMap_disjuncts h]
  split
  case h_1 p => exact h p List.mem_cons_self
  case h_2 => rfl

/-- A predicate that is no disjunction is taken in behind the disjuncts of another one, if there are any. -/
theorem disjuncts_flatOr_pair (p : Predicate) {q : Predicate} (hq : q.disjuncts = [q]) :
    (flatOr [p, q]).disjuncts = p.disjuncts ++ [q] := by
  by_cases hp : p.disjuncts = []
  · have hflat : [p, q].flatMap disjuncts = [q] := by simp [hp, hq]
    rw [flatOr, hflat, hp]
    exact hq
  · rw [flatOr_pair hp (by simp [hq]), disjuncts, hq]

theorem disjuncts_foldl_flatOr (p : Predicate) {qs : List Predicate} (h : ∀ q ∈ qs, q.disjuncts = [q]) :
    (qs.foldl (fun left right => flatOr [left, right]) p).disjuncts = p.disjuncts ++ qs := by
  induction qs generalizing p with
  | nil => rw [List.foldl_nil, List.append_nil]
  | cons q qs ih =>
    rw [List.foldl_cons, ih _ fun q' hq' => h q' (List.mem_cons_of_mem _ hq'),
      disjuncts_flatOr_pair p (h q List.mem_cons_self), List.append_assoc, List.singleton_append]

/-- It is the same whether predicates that are no disjunctions are taken in one after the other or at once. -/
theorem foldl_flatOr (p : Predicate) {qs : List Predicate} (hne : qs ≠ []) (h : ∀ q ∈ qs, q.disjuncts = [q]) :
    qs.foldl (fun left right => flatOr [left, right]) p = flatOr [p, flatOr qs] := by
  obtain ⟨front, q, rfl⟩ : ∃ front q, qs = front ++ [q] := ⟨_, _, (List.dropLast_concat_getLast hne).symm⟩
  have hfront : ∀ q ∈ front, q.disjuncts = [q] := fun q hq => h q (List.mem_append_left _ hq)
  rw [List.foldl_append, List.foldl_cons, List.foldl_nil]
  apply flatOr_congr
  simp only [List.flatMap_cons, List.flatMap_nil, List.append_nil, disjuncts_flatOr h, disjuncts_foldl_flatOr p hfront,
    h q (List.mem_append_right _ List.mem_cons_self), List.append_assoc]

theorem foldl_flatOr_cons {q : Predicate} {qs : List Predicate} (h : ∀ p ∈ q :: qs, p.disjuncts = [p]) :
    qs.foldl (fun left right => flatOr [left, right]) q = flatOr (q :: qs) := by
  obtain ⟨hq, hqs⟩ := List.forall_mem_cons.mp h
  by_cases hne : qs = []
  · subst hne
    rw [List.foldl_nil, flatOr, flatMap_disjuncts h]
  · rw [foldl_flatOr q hne hqs]
    apply flatOr_congr
    simp [disjuncts_flatOr hqs, flatMap_disjuncts hqs]

/-! ### Lying between two bounds

BETWEEN accepts the orders it wants, `>=` and `<=` refuse the ones they do not want: it comes to the same, and values
without an order satisfy none of them. -/

theorem comparisonHolds_gtEq_iff {a b : Literal} :
    comparisonHolds .gtEq a b = true ↔ ∃ o, a.compare? b = some o ∧ o ≠ .lt := by
  rw [comparisonHolds]
  rcases a.compare? b with _ | o
  · simp
  · cases o <;> simp [ComparisonOp.holds]

theorem comparisonHolds_ltEq_iff {a b : Literal} :
    comparisonHolds .ltEq a b = true ↔ ∃ o, a.compare? b = some o ∧ o ≠ .gt := by
  rw [comparisonHolds]
  rcases a.compare? b with _ | o
  · simp
  · cases o <;> simp [ComparisonOp.holds]

theorem betweenHolds_iff {value lower upper : Literal} :
    betweenHolds value lower upper = true ↔
      (∃ o, value.compare? lower = some o ∧ o ≠ .lt) ∧ ∃ o, value.compare? upper = some o ∧ o ≠ .gt := by
  rw [betweenHolds, Bool.and_eq_true]
  rcases value.compare? lower with _ | o <;> rcases value.compare? upper with _ | o' <;> simp

theorem betweenHolds_eq (value lower upper : Literal) :
    betweenHolds value lower upper = (comparisonHolds .gtEq value lower && comparisonHolds .ltEq value upper) := by
  rw [Bool.eq_iff_iff, Bool.and_eq_true, betweenHolds_iff, comparisonHolds_gtEq_iff, comparisonHolds_ltEq_iff]

section Between

variable [RegexLibrary] {feature : Feature} {value lower upper : Expression} {v l u : Option Literal}

/-- The truth of a comparison of two expressions without an error: both have to have a value. -/
theorem evaluate_comparison (op : ComparisonOp) (hvalue : value.evaluate feature = .ok v)
    (hlower : lower.evaluate feature = .ok l) :
    evaluate feature (.comparison op value lower) =
      .ok (v.any fun x => l.any fun y => comparisonHolds op x y) := by
  simp only [evaluate, hvalue, hlower]
  rcases v with _ | x <;> rcases l with _ | y <;> rfl

theorem evaluate_between_eq (hvalue : value.evaluate feature = .ok v) (hlower : lower.evaluate feature = .ok l)
    (hupper : upper.evaluate feature = .ok u) :
    evaluate feature (.between value lower upper) =
      .ok (v.any fun x => l.any fun y => u.any fun z => betweenHolds x y z) := by
  simp only [evaluate, hvalue, hlower, hupper]
  rcases v with _ | x
  · rfl
  rcases l with _ | y
  · rfl
  rcases u with _ | z <;> rfl

/-- BETWEEN is as true as the conjunction of the two comparisons with its bounds, on every feature on which the three
expressions have no error, whichever of them have no value and of whatever kinds the values are.  It is true if there
are three values and the first one is ordered by each of the others, as not less and as not greater. -/
theorem evaluate_between (hvalue : value.evaluate feature = .ok v) (hlower : lower.evaluate feature = .ok l)
    (hupper : upper.evaluate feature = .ok u) :
    ∃ truth, evaluate feature (.between value lower upper) = .ok truth ∧
      evaluate feature (.and [.comparison .gtEq value lower, .comparison .ltEq value upper]) = .ok truth ∧
      (truth = true ↔ ∃ x y z, v = some x ∧ l = some y ∧ u = some z ∧
        (∃ o, x.compare? y = some o ∧ o ≠ .lt) ∧ ∃ o, x.compare? z = some o ∧ o ≠ .gt) := by
  refine ⟨_, evaluate_between_eq hvalue hlower hupper, ?_, ?_⟩
  · rw [evaluate, evaluateAll, evaluateAll_singleton, evaluate_comparison .gtEq hvalue hlower,
      evaluate_comparison .ltEq hvalue hupper]
    rcases v with _ | x
    · rfl
    rcases l with _ | y
    · rfl
    -- The first comparison has a truth, which decides or leaves the truth to the second one.
    rcases u with _ | z
    · simp only [Option.any_some, Option.any_none]
      cases comparisonHolds .gtEq x y <;> rfl
    · simp only [Option.any_some, betweenHolds_eq]
      cases comparisonHolds .gtEq x y <;> rfl
  · rcases v with _ | x <;> rcases l with _ | y <;> rcases u with _ | z <;> simp [betweenHolds_iff]

end Between

/-- A number, a text that writes a number, and a number of another kind. -/
theorem evaluate_between_kinds :
    let feature := Feature.ofProperties "f.1"
      [("n", .number (.integer 5)), ("low", .string " 3 "), ("high", .number (.long 7))]
    let value : Expression := .property ⟨["n"]⟩
    let lower : Expression := .property ⟨["low"]⟩
    let upper : Expression := .property ⟨["high"]⟩
    evaluate feature (.between value lower upper) = .ok true ∧
      evaluate feature (.and [.comparison .gtEq value lower, .comparison .ltEq value upper]) = .ok true := by
  intro feature value lower upper
  have hvalue : value.evaluate feature = .ok (some (.number (.integer 5))) := rfl
  have hlower : lower.evaluate feature = .ok (some (.string " 3 ")) := rfl
  have hupper : upper.evaluate feature = .ok (some (.number (.long 7))) := rfl
  obtain ⟨truth, hbetween, hand, htruth⟩ := evaluate_between hvalue hlower hupper
  have htrue : truth = true :=
    htruth.mpr ⟨_, _, _, rfl, rfl, rfl, ⟨.gt, by decide +kernel, by decide⟩, ⟨.lt, by decide +kernel, by decide⟩⟩
  exact htrue ▸ ⟨hbetween, hand⟩

end GeoFilter.Predicate
