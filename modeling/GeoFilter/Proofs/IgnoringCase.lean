import GeoFilter.Proofs.Parallel.Statement
import GeoFilter.Proofs.Tokenizer

/-!
# A factory that ignores case

`TreeFactory.ignoringCase` makes patterns that ignore case and is plain otherwise.  Its trees are the plain ones with
every pattern in them ignoring case, however deep it lies, and it makes a tree of exactly the statements of which the
plain factory makes one (`compile_ignoringCase`): nothing looks into a tree that is made but the factory itself, which
flattens conjunctions and disjunctions, and flattening does not tell patterns apart.
-/

namespace GeoFilter

/-! ### Trees in which every pattern ignores case -/

namespace Predicate

mutual

/-- A predicate in which every pattern ignores case. -/
def ignoringCase : Predicate → Predicate
  | .includeAll => .includeAll
  | .excludeAll => .excludeAll
  | .and children => .and (ignoringCaseAll children)
  | .or children => .or (ignoringCaseAll children)
  | .not child => .not (ignoringCase child)
  | .comparison op left right => .comparison op left right
  | .spatial op left right => .spatial op left right
  | .distance op left right d units => .distance op left right d units
  | .featureIds ids => .featureIds ids
  | .isNull value => .isNull value
  | .like value pattern _ => .like value pattern true
  | .between value lower upper => .between value lower upper

/-- Some predicates in which every pattern ignores case. -/
def ignoringCaseAll : List Predicate → List Predicate
  | [] => []
  | p :: ps => ignoringCase p :: ignoringCaseAll ps

end

theorem ignoringCaseAll_eq (ps : List Predicate) : ignoringCaseAll ps = ps.map ignoringCase := by
  induction ps with
  | nil => rfl
  | cons p ps ih => rw [ignoringCaseAll, ih, List.map_cons]

theorem conjuncts_ignoringCase (p : Predicate) : p.ignoringCase.conjuncts = p.conjuncts.map ignoringCase := by
  cases p <;> simp [ignoringCase, conjuncts, ignoringCaseAll_eq]

theorem disjuncts_ignoringCase (p : Predicate) : p.ignoringCase.disjuncts = p.disjuncts.map ignoringCase := by
  cases p <;> simp [ignoringCase, disjuncts, ignoringCaseAll_eq]

theorem ignoringCase_flatAnd (p q : Predicate) :
    (p.flatAnd q).ignoringCase = p.ignoringCase.flatAnd q.ignoringCase := by
  rw [flatAnd, flatAnd, ignoringCase, ignoringCaseAll_eq, conjuncts_ignoringCase, conjuncts_ignoringCase,
    List.map_append]

theorem ignoringCase_flatOr (ps : List Predicate) : (flatOr ps).ignoringCase = flatOr (ps.map ignoringCase) := by
  have hdisjuncts : (ps.map ignoringCase).flatMap disjuncts = (ps.flatMap disjuncts).map ignoringCase := by
    simp [List.flatMap_map, List.map_flatMap, disjuncts_ignoringCase]
  unfold flatOr
  rw [hdisjuncts]
  rcases ps.flatMap disjuncts with _ | ⟨p, _ | ⟨q, rest⟩⟩
  · rfl
  · rfl
  · exact congrArg Predicate.or (ignoringCaseAll_eq _)

theorem ignoringCase_negatedWhen (negated : Bool) (p : Predicate) :
    negatedWhen .ignoringCase negated p.ignoringCase = (negatedWhen .plain negated p).ignoringCase := by
  cases negated <;> rfl

theorem ignoringCase_anyOf (x : Expression) (ys : List Expression) :
    anyOf .ignoringCase x ys = (anyOf .plain x ys).ignoringCase := by
  have hequalities : (ys.map (comparison .eq x)).map ignoringCase = ys.map (comparison .eq x) := by
    rw [List.map_map]
    rfl
  exact (congrArg flatOr hequalities).symm.trans (ignoringCase_flatOr _).symm

end Predicate

/-! ### Two factories -/

def Parting.together : Parting where
  strays _ := False
  halts stop stop? := stop? = some stop
  halts_of_none _ _ := nofun
  halts_of_strays _ _ := nofun
  halts_same _ := rfl

variable {dialect : Dialect} {resolver : CrsResolver} {L : List Lexeme}

/-- The expressions of a statement, which are the same with both factories. -/
def sameExpressions (dialect : Dialect) (resolver : CrsResolver) (hL : Numerals L) : ExpressionPairing where
  toPairing := Parting.together.pairing dialect ⟨.plain, resolver⟩ ⟨.ignoringCase, resolver⟩ hL
  geometry g g' := g' = g
  factor _ x x' := x' = x
  product _ x x' := x' = x
  sum _ x x' := x' = x
  unlocated := @unlocated_itself
  located := by
    rintro g srid token _ _ rfl
    dsimp only [Parting.pairing]
    cases qualified resolver g srid token with
    | ok literal => exact .value rfl
    | error finding => exact .stop rfl
  geometryLiteral _ hg := by rw [hg]
  literal := @literal_itself
  property _ _ hnames := by
    rw [texts_itself hL hnames]
    rfl
  function {name name' args args' _} hname hargs := by
    rw [text_itself hL hname, eq_of_forall₂_eq (hargs.imp fun _ _ h => h.const.symm)]
    rfl
  grouped h := h.const
  product_of_factor h := h
  sum_of_product h := h
  multiplied op hx hy := by
    rw [hx, hy]
    rfl
  added op hx hy := by
    rw [hx, hy]
    rfl

/-- The filters of a statement: the factory that ignores case makes of each what the plain one makes of it, with
patterns that ignore case. -/
def caselessPredicates (dialect : Dialect) (resolver : CrsResolver) (hL : Numerals L) : PredicatePairing where
  toExpressionPairing := sameExpressions dialect resolver hL
  test _ p p' := p' = p.ignoringCase
  negation _ _ p p' _ := p' = p.ignoringCase
  conjunction _ _ p p' _ := p' = p.ignoringCase
  disjunction _ _ p p' _ := p' = p.ignoringCase
  written _ text text' _ := text' = text
  pattern := spanning_pattern_itself hL
  units h := by rw [eq_of_forall₂_eq h]
  includeAll _ := rfl
  excludeAll _ := rfl
  featureIds _ _ hids := by
    rw [texts_itself hL hids]
    rfl
  comparison op hx hy := by
    rw [hx, hy]
    rfl
  spatial _ hx hy := by
    rw [hx, hy]
    cases dialect <;> rfl
  bbox _ _ _ hx hg := by
    rw [hx, hg]
    rfl
  distance op d units hx hy := by
    rw [hx, hy]
    rfl
  relate hx hy := by
    rw [hx, hy]
    rfl
  negation_of_pattern _ hx hy _ _ htext _ := by
    rw [hx, hy, htext]
    rfl
  isNull negated hx := by
    rw [hx]
    exact Predicate.ignoringCase_negatedWhen negated (.isNull _)
  like pattern ignoringCase negated hx := by
    rw [hx]
    exact Predicate.ignoringCase_negatedWhen negated (.like _ pattern ignoringCase)
  between negated hx hy hz := by
    rw [hx, hy, hz]
    exact Predicate.ignoringCase_negatedWhen negated (.between _ _ _)
  anyOf negated _ hx hys := by
    rw [hx, eq_of_forall₂_eq (hys.imp fun _ _ h => h.symm)]
    refine (congrArg _ (Predicate.ignoringCase_anyOf _ _)).trans ?_
    exact Predicate.ignoringCase_negatedWhen negated _
  negation_of_test _ h := h
  not _ h := congrArg Predicate.not h.const
  group _ _ h := h.const
  conjunction_of_negation h := h
  and _ hp hq := by
    rw [hp, hq]
    exact (Predicate.ignoringCase_flatAnd _ _).symm
  disjunction_of_conjunction h := h
  or _ hp hq := by
    rw [hp, hq]
    exact (Predicate.ignoringCase_flatOr [_, _]).symm

/-! ### Statements -/

/-- Where both translations stop together, the second answer is made of the first. -/
theorem eq_map_of_results (hL : Numerals L) {f : α → β} {result : Except CompileFailure α}
    {result' : Except CompileFailure β} {said : Except Stop α} {said' : Except Stop β} {statement : String}
    (hresult : result = said.mapError (Stop.inStatement statement))
    (hresult' : result' = said'.mapError (Stop.inStatement statement))
    (h : (Parting.together.pairing dialect ⟨.plain, resolver⟩ ⟨.ignoringCase, resolver⟩ hL).Result
      (fun a b => b = f a) said said') : result' = result.map f := by
  subst hresult hresult'
  cases h with
  | value h => exact congrArg _ h
  | stray h => exact h.elim
  | stop h =>
    cases said' with
    | ok b => cases h
    | error stop =>
      cases h
      rfl

theorem eq_map_of_forall₂ {f : α → β} {as : List α} {bs : List β} (h : List.Forall₂ (fun a b => b = f a) as bs) :
    bs = as.map f := by
  induction h with
  | nil => rfl
  | cons h _ ih => rw [h, ih, List.map_cons]

theorem eq_map_of_error {f : α → β} {result : Except CompileFailure α} {result' : Except CompileFailure β}
    {failure : CompileFailure} (h : result = .error failure) (h' : result' = .error failure) :
    result' = result.map f := by
  rw [h, h']
  rfl

/-- **A factory that ignores case changes nothing but the patterns.**  In either dialect, with any resolver, it makes of
a statement what the plain factory makes of it, with every pattern ignoring case wherever it is nested; expressions
have no patterns and are the same.  It fails exactly where the plain factory fails, and with the same error. -/
theorem compile_ignoringCase (dialect : Dialect) (resolver : CrsResolver) (statement : String) :
    ((⟨dialect, ⟨.ignoringCase, resolver⟩⟩ : Compiler).compileFilter statement).result =
      ((⟨dialect, ⟨.plain, resolver⟩⟩ : Compiler).compileFilter statement).result.map Predicate.ignoringCase ∧
    ((⟨dialect, ⟨.ignoringCase, resolver⟩⟩ : Compiler).compileFilterList statement).result =
      ((⟨dialect, ⟨.plain, resolver⟩⟩ : Compiler).compileFilterList statement).result.map
        (List.map Predicate.ignoringCase) ∧
    ((⟨dialect, ⟨.ignoringCase, resolver⟩⟩ : Compiler).compileExpression statement).result =
      ((⟨dialect, ⟨.plain, resolver⟩⟩ : Compiler).compileExpression statement).result := by
  cases hscan : scan statement with
  | error f =>
    have hfailure := fun (factory : TreeFactory) (α : Type) (entry : EntryPoint)
        (toTree : Entry → Except StackDefect α) =>
      compile_unscannable ⟨dialect, ⟨factory, resolver⟩⟩ entry toTree hscan
    exact ⟨eq_map_of_error (single_of_error (hfailure .plain _ _ _)) (single_of_error (hfailure .ignoringCase _ _ _)),
      eq_map_of_error (hfailure .plain _ _ _) (hfailure .ignoringCase _ _ _),
      (single_of_error (hfailure .ignoringCase _ _ _)).trans (single_of_error (hfailure .plain _ _ _)).symm⟩
  | ok L =>
    have hL : Numerals L := numeral_of_scan hscan
    let u (factory : TreeFactory) : Setting := ⟨dialect, ⟨factory, resolver⟩, fun _ => true⟩
    have hu : ∀ factory r, (u factory).permits r = true := fun _ _ => rfl
    have hinput : L = L ∧ L <:+ L := ⟨rfl, List.suffix_rfl⟩
    refine ⟨?_, ?_, ?_⟩
    · exact eq_map_of_results hL (compileFilter_eq (hu .plain) hscan) (compileFilter_eq (hu .ignoringCase) hscan)
        (result_filterStatement (w := caselessPredicates dialect resolver hL) hinput)
    · exact eq_map_of_results hL (compileFilterList_eq (hu .plain) hscan)
        (compileFilterList_eq (hu .ignoringCase) hscan)
        ((result_listStatement (w := caselessPredicates dialect resolver hL) (fun _ _ _ _ h => h) hinput).mono
          fun _ _ => eq_map_of_forall₂)
    · have hresult : _ = _ := eq_map_of_results hL (f := id) (compileExpression_eq (hu .plain) hscan)
        (compileExpression_eq (hu .ignoringCase) hscan)
        (result_expressionStatement (w := sameExpressions dialect resolver hL) hinput)
      exact hresult.trans (congrFun Except.map_id _)

end GeoFilter
