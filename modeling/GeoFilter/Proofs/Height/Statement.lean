import GeoFilter.Proofs.Derivation.Expression
import GeoFilter.Proofs.Height
import GeoFilter.Proofs.Parallel.Statement
import GeoFilter.Proofs.Spelling

/-!
# Heights of the trees of statements

The limit of nesting bounds the nesting of every tree, but not its height: a sum of names is as high as it is long.
-/

namespace GeoFilter

variable {L : List Lexeme}

/-! ### Nesting -/

namespace Predicate

theorem nesting_conjuncts {p : Predicate} {n : Nat} (h : p.nesting ≤ n) : ∀ child ∈ p.conjuncts, child.nesting ≤ n := by
  cases p with
  | and children =>
    have hchildren : measureOfAll Expression.nesting 1 children ≤ n := Nat.le_of_succ_le h
    exact measureOfAll_le.mp hchildren
  | _ => exact List.forall_mem_singleton.mpr h

theorem nesting_disjuncts {p : Predicate} {n : Nat} (h : p.nesting ≤ n) : ∀ child ∈ p.disjuncts, child.nesting ≤ n := by
  cases p with
  | or children =>
    have hchildren : measureOfAll Expression.nesting 1 children ≤ n := Nat.le_of_succ_le h
    exact measureOfAll_le.mp hchildren
  | _ => exact List.forall_mem_singleton.mpr h

theorem nesting_le_of_conjuncts {p : Predicate} {n : Nat} (h : ∀ child ∈ p.conjuncts, child.nesting ≤ n) :
    p.nesting ≤ n + 1 := by
  cases p with
  | and children => exact Nat.succ_le_succ (measureOfAll_le.mpr h)
  | _ => exact Nat.le_succ_of_le (h _ List.mem_cons_self)

theorem nesting_le_of_disjuncts {p : Predicate} {n : Nat} (h : ∀ child ∈ p.disjuncts, child.nesting ≤ n) :
    p.nesting ≤ n + 1 := by
  cases p with
  | or children => exact Nat.succ_le_succ (measureOfAll_le.mpr h)
  | _ => exact Nat.le_succ_of_le (h _ List.mem_cons_self)

theorem nesting_flatOr {ps : List Predicate} {n : Nat} (h : ∀ p ∈ ps, ∀ child ∈ p.disjuncts, child.nesting ≤ n) :
    ∀ child ∈ (flatOr ps).disjuncts, child.nesting ≤ n := by
  have hall : ∀ child ∈ ps.flatMap disjuncts, child.nesting ≤ n := by
    intro child hchild
    obtain ⟨p, hp, hchild⟩ := List.mem_flatMap.mp hchild
    exact h p hp child hchild
  unfold flatOr
  split
  case h_1 p heq =>
    rw [heq] at hall
    exact nesting_disjuncts (hall p List.mem_cons_self)
  case h_2 => exact hall

end Predicate

/-- The expressions of a statement, and how far nested they are: every level adds a product, a sum and a call.  A product
on the left of a sum, and a bracket on the left of either, belongs to its row, so the operands are counted. -/
def nestedExpressions (dialect : Dialect) (resolver : CrsResolver) (hL : Numerals L) : ExpressionPairing where
  toPairing := Parting.free.pairing dialect ⟨.plain, resolver⟩ ⟨.plain, resolver⟩ hL
  geometry _ _ := True
  factor levels x _ := x.nesting ≤ 3 * levels + 1
  product levels x _ := x.operandNesting ≤ 3 * levels + 1
  sum levels x _ := x.operandNesting ≤ 3 * levels + 2
  unlocated _ := trivial
  located := by
    rintro g srid token _ hg rfl
    unfold qualified
    dsimp only [Parting.pairing]
    cases resolver srid with
    | ok crs => exact .value trivial
    | error e => exact .stop trivial
  geometryLiteral _ _ := Nat.zero_le _
  literal _ _ := Nat.zero_le _
  property _ _ _ := Nat.zero_le _
  function {name name' args args' levels} _ hargs := by
    refine Nat.succ_le_succ (Expression.nestingOfAll_le.mpr (forall_of_forall₂ (hargs.imp fun x x' hx => ?_)))
    cases levels with
    | zero => exact hx.elim
    | succ levels => exact Expression.nesting_le_of_operands hx
  grouped {x x' levels} hx := by
    cases levels with
    | zero => exact hx.elim
    | succ levels =>
      have hnesting : x.nesting ≤ 3 * levels + 3 := Expression.nesting_le_of_operands hx
      omega
  product_of_factor {x x' levels} h := x.operandNesting_le_nesting.trans h
  sum_of_product h := Nat.le_succ_of_le h
  multiplied _ hx hy := Nat.max_le.mpr ⟨hx, hy⟩
  added _ hx hy := Nat.max_le.mpr ⟨hx, Expression.nesting_le_of_operands hy⟩

theorem nesting_negatedWhen {p : Predicate} {n : Nat} (h : p.nesting ≤ n) (negated : Bool) :
    (negatedWhen .plain negated p).nesting ≤ n + 1 := by
  cases negated with
  | true => exact Nat.succ_le_succ h
  | false => exact Nat.le_succ_of_le h

theorem nesting_pair {x y : Expression} {n : Nat} (hx : x.operandNesting ≤ n) (hy : y.operandNesting ≤ n) :
    max x.nesting y.nesting ≤ n + 1 :=
  Nat.max_le.mpr ⟨Expression.nesting_le_of_operands hx, Expression.nesting_le_of_operands hy⟩

theorem nesting_anyOf {x : Expression} {ys : List Expression} {n : Nat} (hx : x.operandNesting ≤ n)
    (hys : ∀ y ∈ ys, y.operandNesting ≤ n) : (anyOf .plain x ys).nesting ≤ n + 2 := by
  refine Predicate.nesting_le_of_disjuncts (Predicate.nesting_flatOr fun p hp => ?_)
  obtain ⟨y, hy, rfl⟩ := List.mem_map.mp hp
  exact List.forall_mem_singleton.mpr (nesting_pair hx (hys y hy))

theorem nesting_related {name : String} {args : List Expression} {n : Nat}
    (hargs : ∀ arg ∈ args, arg.operandNesting ≤ n) : (related .plain name args).nesting ≤ n + 2 := by
  have hnesting : Expression.nestingOfAll args ≤ n + 1 :=
    Expression.nestingOfAll_le.mpr fun arg harg => Expression.nesting_le_of_operands (hargs arg harg)
  exact Nat.max_le.mpr ⟨Nat.succ_le_succ hnesting, Nat.zero_le _⟩

/-- The filters of a statement, and how far nested they are: a test adds a call or an OR and a NOT to its operands, and
a level of predicates adds an AND and an OR at most, which is less than a level of expressions adds. -/
def nestedPredicates (dialect : Dialect) (resolver : CrsResolver) (hL : Numerals L) : PredicatePairing where
  toExpressionPairing := nestedExpressions dialect resolver hL
  test levels p _ := p.nesting ≤ 3 * levels + 5
  negation levels _ p _ _ := p.nesting ≤ 3 * levels + 5
  conjunction levels _ p _ _ := ∀ child ∈ p.conjuncts, child.nesting ≤ 3 * levels + 5
  disjunction levels _ p _ _ := ∀ child ∈ p.disjuncts, child.nesting ≤ 3 * levels + 6
  written _ text text' _ := text' = text
  pattern := spanning_pattern_free dialect resolver hL
  units h := by rw [eq_of_forall₂_eq h]
  includeAll _ := Nat.zero_le _
  excludeAll _ := Nat.zero_le _
  featureIds _ _ _ := Nat.zero_le _
  comparison _ hx hy := (nesting_pair hx hy).trans (Nat.le_add_right _ 2)
  spatial _ hx hy := by
    rw [Translation.spatialRight_plain rfl]
    exact (nesting_pair hx hy).trans (Nat.le_add_right _ 2)
  bbox _ _ _ hx _ := (nesting_pair hx (Nat.zero_le _)).trans (Nat.le_add_right _ 2)
  distance _ _ _ hx hy := (nesting_pair hx hy).trans (Nat.le_add_right _ 2)
  relate hx hy := Nat.le_succ_of_le (nesting_related (List.forall_mem_cons.mpr ⟨hx, List.forall_mem_singleton.mpr hy⟩))
  negation_of_pattern _ hx hy _ _ _ _ := Nat.le_succ_of_le (nesting_related (List.forall_mem_cons.mpr ⟨hx,
    List.forall_mem_cons.mpr ⟨hy, List.forall_mem_singleton.mpr (Nat.zero_le _)⟩⟩))
  isNull negated hx := Nat.le_succ_of_le (nesting_negatedWhen (Expression.nesting_le_of_operands hx) negated)
  like _ _ negated hx := Nat.le_succ_of_le (nesting_negatedWhen (Expression.nesting_le_of_operands hx) negated)
  between negated hx hy hz := Nat.le_succ_of_le (nesting_negatedWhen
    (Nat.max_le.mpr ⟨Expression.nesting_le_of_operands hx, nesting_pair hy hz⟩) negated)
  anyOf negated _ hx hys := nesting_negatedWhen (nesting_anyOf hx (forall_of_forall₂ hys)) negated
  negation_of_test _ h := h
  not {levels _ _ _ _ _} _ h := by
    cases levels with
    | zero => exact h.elim
    | succ levels => exact (Nat.succ_le_succ h).trans (by omega)
  group {levels _ _ _ _ _ _ _} _ _ h := by
    cases levels with
    | zero => exact h.elim
    | succ levels => exact (Predicate.nesting_le_of_disjuncts h).trans (by omega)
  conjunction_of_negation h := Predicate.nesting_conjuncts h
  and _ hp hq := List.forall_mem_append.mpr ⟨hp, Predicate.nesting_conjuncts hq⟩
  disjunction_of_conjunction h := Predicate.nesting_disjuncts (Predicate.nesting_le_of_conjuncts h)
  or _ hp hq := Predicate.nesting_flatOr (List.forall_mem_cons.mpr ⟨hp, List.forall_mem_singleton.mpr
    (Predicate.nesting_disjuncts (Predicate.nesting_le_of_conjuncts hq))⟩)

/-- **The nesting of a tree is bounded, whatever the statement; its height is too, but for rows of operators.** -/
theorem nesting_le_of_compiled (dialect : Dialect) (resolver : CrsResolver) (statement : String) :
    (∀ p, ((⟨dialect, ⟨.plain, resolver⟩⟩ : Compiler).compileFilter statement).result = .ok p →
      p.nesting ≤ 3 * maxNesting + 7 ∧ p.height < (p.longestChain + 1) * (3 * maxNesting + 8)) ∧
    ∀ x, ((⟨dialect, ⟨.plain, resolver⟩⟩ : Compiler).compileExpression statement).result = .ok x →
      x.nesting ≤ 3 * maxNesting + 3 ∧ x.height < (x.longestChain + 1) * (3 * maxNesting + 4) := by
  let u : Setting := ⟨dialect, ⟨.plain, resolver⟩, fun _ => true⟩
  refine ⟨fun p hp => ?_, fun x hx => ?_⟩
  · obtain ⟨L, hscan⟩ := scan_of_compiled (single_eq_ok hp)
    have hsaid := (compileFilter_reports (u := u) hscan).eq_ok (not_unpermittedIn (fun _ => rfl) _) hp
    have hresult := result_filterStatement (w := nestedPredicates dialect resolver (numeral_of_scan hscan))
      ⟨rfl, List.suffix_rfl⟩
    have hnesting : p.nesting ≤ 3 * maxNesting + 7 :=
      Predicate.nesting_le_of_disjuncts (holds_of_result (numeral_of_scan hscan) (hsaid ▸ hresult))
    exact ⟨hnesting, (Predicate.height_lt p le_rfl).trans_le (Nat.mul_le_mul_left _ (Nat.succ_le_succ hnesting))⟩
  · obtain ⟨L, hscan⟩ := scan_of_compiled (single_eq_ok hx)
    have hsaid := (compileExpression_reports (u := u) hscan).eq_ok (not_unpermittedIn (fun _ => rfl) _) hx
    have hresult := result_expressionStatement (w := nestedExpressions dialect resolver (numeral_of_scan hscan))
      ⟨rfl, List.suffix_rfl⟩
    have hnesting : x.nesting ≤ 3 * maxNesting + 3 :=
      Expression.nesting_le_of_operands (holds_of_result (P := fun x : Expression => x.operandNesting ≤ 3 * maxNesting + 2)
        (numeral_of_scan hscan) (hsaid ▸ hresult))
    exact ⟨hnesting, (Expression.height_lt le_rfl).trans_le (Nat.mul_le_mul_left _ (Nat.succ_le_succ hnesting))⟩

theorem nesting_le_of_compiled_sums :
    (∃ p, ((⟨.ecql, ⟨.plain, CrsRegistry.wellKnown.resolver⟩⟩ : Compiler).compileFilter
      "NOT (a + b + c = f(d) AND e < 1)").result = .ok p ∧
      p.nesting ≤ 3 * maxNesting + 7 ∧ p.height < (p.longestChain + 1) * (3 * maxNesting + 8)) ∧
    ∃ x, ((⟨.cql, ⟨.plain, CrsRegistry.wellKnown.resolver⟩⟩ : Compiler).compileExpression "a + f(b * c) + d").result =
      .ok x ∧ x.nesting ≤ 3 * maxNesting + 3 ∧ x.height < (x.longestChain + 1) * (3 * maxNesting + 4) := by
  have hfilter := (nesting_le_of_compiled .ecql CrsRegistry.wellKnown.resolver "NOT (a + b + c = f(d) AND e < 1)").1
  have hexpression := (nesting_le_of_compiled .cql CrsRegistry.wellKnown.resolver "a + f(b * c) + d").2
  have hcompiles : ((⟨.ecql, ⟨.plain, CrsRegistry.wellKnown.resolver⟩⟩ : Compiler).compileFilter
      "NOT (a + b + c = f(d) AND e < 1)").result.toOption.isSome = true := by decide +kernel
  have hcompiles' : ((⟨.cql, ⟨.plain, CrsRegistry.wellKnown.resolver⟩⟩ : Compiler).compileExpression
      "a + f(b * c) + d").result.toOption.isSome = true := by decide +kernel
  obtain ⟨p, hp⟩ := exists_ok_of_isSome hcompiles
  obtain ⟨x, hx⟩ := exists_ok_of_isSome hcompiles'
  exact ⟨⟨p, hp, hfilter p hp⟩, x, hx, hexpression x hx⟩

/-! ### Long sums -/

/-- The sum of an attribute and itself, with some plus signs, grouped from the left. -/
def Expression.repeatedSum (x : Expression) : Nat → Expression
  | 0 => x
  | n + 1 => .arithmetic .add (repeatedSum x n) x

def repeatedSumTokens (token : Token) : Nat → List Token
  | 0 => [token]
  | n + 1 => repeatedSumTokens token n ++ [.sign .plus, token]

theorem Expression.height_repeatedSum (x : Expression) (n : Nat) : n ≤ (x.repeatedSum n).height := by
  induction n with
  | zero => exact Nat.zero_le _
  | succ n ih => exact Nat.succ_le_succ (ih.trans (Nat.le_max_left _ _))

theorem derives_repeatedSum {levels : Nat} (name : Name) (n : Nat) :
    (sums (factors (expressions levels))).Derives (repeatedSumTokens name.token n)
      (Expression.repeatedSum (.property ⟨[name.text]⟩) n) := by
  let operand : LeftGrouped productOperators (Factor (expressions levels).Tree) := .single (.property name [])
  induction n with
  | zero => exact ⟨.single operand, rfl, rfl⟩
  | succ n ih =>
    obtain ⟨t, htokens, hvalue⟩ := ih
    refine ⟨.more t ⟨(.plus, .add), List.mem_cons_self, operand⟩, ?_, ?_⟩
    · exact congrArg (· ++ [Token.sign .plus, name.token]) htokens
    · exact congrArg (Expression.arithmetic .add · (.property ⟨[name.text]⟩)) hvalue

theorem mem_repeatedSumTokens {token t : Token} {n : Nat} (h : t ∈ repeatedSumTokens token n) :
    t = token ∨ t = .sign .plus := by
  induction n with
  | zero => exact .inl (List.mem_singleton.mp h)
  | succ n ih =>
    rcases List.mem_append.mp h with h | h
    · exact ih h
    · simpa [or_comm] using h

theorem compiles_repeatedSum (dialect : Dialect) (resolver : CrsResolver) (n : Nat) :
    ∃ statement, ((⟨dialect, ⟨.plain, resolver⟩⟩ : Compiler).compileExpression statement).result =
      .ok (Expression.repeatedSum (.property ⟨["a"]⟩) n) := by
  let name : Name := ⟨"a", none, by decide +kernel⟩
  have hword : Scan.Spells "a".toList [name.token] (Scan.Ahead [' ']) := by
    refine (Scan.Spells.word ⟨'a', [], rfl, by decide, nofun⟩).mono fun rest hrest c hc => ?_
    obtain rfl := List.mem_singleton.mp (hrest c hc)
    decide
  have hspells : ∀ t ∈ repeatedSumTokens name.token n, Scan.Spells t.spelling.toList [t] (Scan.Ahead [' ']) := by
    intro t ht
    rcases mem_repeatedSumTokens ht with rfl | rfl
    · exact hword
    · exact .sign_blank .plus
  have hplain : ∀ t ∈ repeatedSumTokens name.token n, t.startsGeometry = false := by
    intro t ht
    rcases mem_repeatedSumTokens ht with rfl | rfl <;> decide +kernel
  obtain ⟨lexemes, hscan, htokens⟩ := (Scan.cuts_spellings hspells).scan
  let u : Setting := ⟨dialect, ⟨.plain, resolver⟩, fun _ => true⟩
  have hderives : (expressions maxNesting).Derives (tokensOf lexemes) _ := htokens ▸ derives_repeatedSum name n
  have hsaid := (expressionStatement_eq_ok (u := u) ⟨fun _ => rfl, rfl⟩ (htokens ▸ hplain)).mpr hderives
  have hreports := compileExpression_reports (u := u) hscan
  exact ⟨_, (hsaid ▸ hreports).of_ok⟩

/-- No height bounds the trees of all statements: the limit does not count the operators of a sum. -/
theorem height_unbounded :
    ¬∃ bound, ∀ (dialect : Dialect) (resolver : CrsResolver) (statement : String),
      (∀ p, ((⟨dialect, ⟨.plain, resolver⟩⟩ : Compiler).compileFilter statement).result = .ok p → p.height ≤ bound) ∧
      ∀ x, ((⟨dialect, ⟨.plain, resolver⟩⟩ : Compiler).compileExpression statement).result = .ok x →
        x.height ≤ bound := by
  rintro ⟨bound, hbound⟩
  obtain ⟨statement, hstatement⟩ := compiles_repeatedSum .ecql CrsRegistry.wellKnown.resolver (bound + 1)
  have hle := (hbound .ecql CrsRegistry.wellKnown.resolver statement).2 _ hstatement
  have hge := Expression.height_repeatedSum (.property ⟨["a"]⟩) (bound + 1)
  omega

end GeoFilter
