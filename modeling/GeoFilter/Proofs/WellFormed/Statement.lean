import GeoFilter.Proofs.Parallel.Statement
import GeoFilter.Proofs.Tokenizer

/-!
# Statements have well-formed trees

A plain factory keeps to well-formed trees, whatever it makes of them; so every tree of a statement is well formed.
-/

namespace GeoFilter

variable {L : List Lexeme}

/-- The expressions of a statement beside themselves, and that they are well formed. -/
def wellFormedExpressions (dialect : Dialect) (resolver : CrsResolver) (hL : Numerals L) : ExpressionPairing where
  toPairing := Parting.free.pairing dialect ⟨.plain, resolver⟩ ⟨.plain, resolver⟩ hL
  geometry g _ := g.geometry.WellFormed
  factor _ x _ := x.WellFormed
  product _ x _ := x.WellFormed
  sum _ x _ := x.WellFormed
  unlocated h := h
  located := by
    rintro g srid token _ hg rfl
    unfold qualified
    dsimp only [Parting.pairing]
    cases resolver srid with
    | ok crs => exact .value hg
    | error e => exact .stop trivial
  geometryLiteral _ hg := .literal hg
  literal {value} _ hvalue := .literal (by
    cases value with
    | geometry g => exact absurd rfl (hvalue g)
    | _ => trivial)
  property _ hne _ := .property hne
  function _ hargs := .function (forall_of_forall₂ (hargs.imp fun _ _ h => h.const))
  grouped h := h.const
  product_of_factor h := h
  sum_of_product h := h
  multiplied _ hx hy := .arithmetic hx hy
  added _ hx hy := .arithmetic hx hy

theorem Predicate.WellFormed.negatedWhen {p : Predicate} (h : p.WellFormed) (negated : Bool) :
    (negatedWhen .plain negated p).WellFormed := by
  cases negated with
  | true => exact .not h
  | false => exact h

theorem Predicate.WellFormed.anyOf {x : Expression} {ys : List Expression} (hne : ys ≠ []) (hx : x.WellFormed)
    (hys : ∀ y ∈ ys, y.WellFormed) : (anyOf .plain x ys).WellFormed := by
  refine .flatOr (by simpa using hne) fun p hp => ?_
  obtain ⟨y, hy, rfl⟩ := List.mem_map.mp hp
  exact .comparison hx (hys y hy)

theorem wellFormed_related {name : String} {x y : Expression} {args : List Expression} (hx : x.WellFormed)
    (hy : y.WellFormed) (hargs : ∀ arg ∈ args, arg.WellFormed) : (related .plain name (x :: y :: args)).WellFormed :=
  .comparison (.function (List.forall_mem_cons.mpr ⟨hx, List.forall_mem_cons.mpr ⟨hy, hargs⟩⟩)) (.literal trivial)

/-- The filters of a statement beside themselves, and that they are well formed. -/
def wellFormedPredicates (dialect : Dialect) (resolver : CrsResolver) (hL : Numerals L) : PredicatePairing where
  toExpressionPairing := wellFormedExpressions dialect resolver hL
  test _ p _ := p.WellFormed
  negation _ _ p _ _ := p.WellFormed
  conjunction _ _ p _ _ := p.WellFormed
  disjunction _ _ p _ _ := p.WellFormed
  written _ text text' _ := text' = text
  pattern := spanning_pattern_free dialect resolver hL
  units h := by rw [eq_of_forall₂_eq h]
  includeAll _ := .includeAll
  excludeAll _ := .excludeAll
  featureIds _ hne _ := Predicate.wellFormed_featureIds hne
  comparison _ hx hy := .comparison hx hy
  spatial hop hx hy := by
    rw [Translation.spatialRight_plain rfl]
    exact .spatial hx hy fun h => absurd h hop
  bbox := by
    rintro region x x' ⟨_, crs⟩ g' levels hregion rfl _ hx hg
    exact .spatial hx (.literal hg) fun _ => ⟨region, crs, rfl, hregion⟩
  distance _ _ _ hx hy := .distance hx hy
  relate hx hy := wellFormed_related hx hy (List.forall_mem_nil _)
  negation_of_pattern _ hx hy _ _ _ _ := wellFormed_related hx hy (List.forall_mem_singleton.mpr (.literal trivial))
  isNull negated hx := (Predicate.WellFormed.isNull hx).negatedWhen negated
  like _ _ negated hx := (Predicate.WellFormed.like hx).negatedWhen negated
  between negated hx hy hz := (Predicate.WellFormed.between hx hy hz).negatedWhen negated
  anyOf negated hne hx hys := (Predicate.WellFormed.anyOf hne hx (forall_of_forall₂ hys)).negatedWhen negated
  negation_of_test _ h := h
  not _ h := .not h.const
  group _ _ h := h.const
  conjunction_of_negation h := h
  and _ hp hq := hp.flatAnd hq
  disjunction_of_conjunction h := h
  or _ hp hq := .flatOr (List.cons_ne_nil _ _) (List.forall_mem_cons.mpr ⟨hp, List.forall_mem_singleton.mpr hq⟩)

/-- **Every tree of a statement is well formed**, whatever the dialect, the resolver and the statement. -/
theorem compiled_wellFormed (dialect : Dialect) (resolver : CrsResolver) (statement : String) :
    (∀ p, ((⟨dialect, ⟨.plain, resolver⟩⟩ : Compiler).compileFilter statement).result = .ok p → p.WellFormed) ∧
    (∀ ps, ((⟨dialect, ⟨.plain, resolver⟩⟩ : Compiler).compileFilterList statement).result = .ok ps →
      ∀ p ∈ ps, p.WellFormed) ∧
    ∀ x, ((⟨dialect, ⟨.plain, resolver⟩⟩ : Compiler).compileExpression statement).result = .ok x → x.WellFormed := by
  let u : Setting := ⟨dialect, ⟨.plain, resolver⟩, fun _ => true⟩
  refine ⟨fun p hp => ?_, fun ps hps => ?_, fun x hx => ?_⟩
  · obtain ⟨L, hscan⟩ := scan_of_compiled (single_eq_ok hp)
    have hsaid := (compileFilter_reports (u := u) hscan).eq_ok (not_unpermittedIn (fun _ => rfl) _) hp
    have hresult := result_filterStatement (w := wellFormedPredicates dialect resolver (numeral_of_scan hscan))
      ⟨rfl, List.suffix_rfl⟩
    exact holds_of_result (numeral_of_scan hscan) (hsaid ▸ hresult)
  · obtain ⟨L, hscan⟩ := scan_of_compiled hps
    have hsaid := (compileFilterList_reports (u := u) hscan).eq_ok (not_unpermittedIn (fun _ => rfl) _) hps
    have hresult := result_listStatement (w := wellFormedPredicates dialect resolver (numeral_of_scan hscan))
      (fun _ _ _ _ h => h) ⟨rfl, List.suffix_rfl⟩
    exact holds_of_result (numeral_of_scan hscan) (hsaid ▸ hresult.mono fun _ _ => forall_of_forall₂)
  · obtain ⟨L, hscan⟩ := scan_of_compiled (single_eq_ok hx)
    have hsaid := (compileExpression_reports (u := u) hscan).eq_ok (not_unpermittedIn (fun _ => rfl) _) hx
    have hresult := result_expressionStatement (w := wellFormedExpressions dialect resolver (numeral_of_scan hscan))
      ⟨rfl, List.suffix_rfl⟩
    exact holds_of_result (numeral_of_scan hscan) (hsaid ▸ hresult)

theorem compiled_wellFormed_streets :
    (∃ p, ((⟨.ecql, ⟨.plain, CrsRegistry.wellKnown.resolver⟩⟩ : Compiler).compileFilter
      "BBOX(shape, 1, 2, 3, 4) OR name IN ('a', 'b') OR (kind = 1 AND (lanes = 2 AND IN ('x', 'x')))").result = .ok p ∧
      p.WellFormed) ∧
    (∃ ps, ((⟨.cql, ⟨.plain, CrsRegistry.wellKnown.resolver⟩⟩ : Compiler).compileFilterList
      "name IS NULL; NOT name LIKE 'a%'").result = .ok ps ∧ ∀ p ∈ ps, p.WellFormed) ∧
    ∃ x, ((⟨.cql, ⟨.plain, CrsRegistry.wellKnown.resolver⟩⟩ : Compiler).compileExpression
      "area(road.shape, MULTIPOINT(1 2, 3 4))").result = .ok x ∧ x.WellFormed := by
  have hsome : ∀ {α : Type} {P : α → Prop} {result : Except CompileFailure α}, (∀ a, result = .ok a → P a) →
      result.toOption.isSome = true → ∃ a, result = .ok a ∧ P a := by
    intro α P result hP h
    obtain ⟨a, ha⟩ := exists_ok_of_isSome h
    exact ⟨a, ha, hP a ha⟩
  exact ⟨hsome (compiled_wellFormed _ _ _).1 (by decide +kernel), hsome (compiled_wellFormed _ _ _).2.1 (by decide +kernel),
    hsome (compiled_wellFormed _ _ _).2.2 (by decide +kernel)⟩

end GeoFilter
