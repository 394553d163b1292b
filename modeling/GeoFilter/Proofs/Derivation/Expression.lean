import GeoFilter.Proofs.Compilation
import GeoFilter.Proofs.Derivation.Unambiguous
import GeoFilter.Proofs.NumberKind
import GeoFilter.Proofs.Tokenizer

/-!
# Expressions are what is derived

A compiler with plain nodes makes exactly the trees of the grammar of expressions, each of the only derivation
that its tokens have.
-/

namespace GeoFilter

open Translation (bind_of_ok bind_eq_ok read_of_ok read_eq_ok)

/-! ### Expressions of all levels -/

theorem reads_sumOf {u : Setting} {operand : Translation Expression} {A : Nonterminal Expression}
    (hu : u.IsPlain) (hoperand : Reads operand A operandClosers) :
    Reads (Translation.sumOf u operand) (sums A) closers :=
  reads_leftGrouped hu (by decide) (by decide) (by decide)
    (reads_leftGrouped hu (by decide) (by decide) (by decide) hoperand)

theorem reads_expression {u : Setting} (hu : u.IsPlain) (levels : Nat) :
    Reads (Translation.expression u levels) (expressions levels) closers := by
  induction levels with
  | zero => exact reads_sumOf hu (reads_factor hu .deepest 0)
  | succ levels ih => exact reads_sumOf hu (reads_factor hu (.deeper ih) (levels + 1))

theorem unambiguous_sums {A : Nonterminal Expression} (hA : Unambiguous A operandClosers) :
    Unambiguous (sums A) closers :=
  unambiguous_leftGrouped (by decide) (by decide) (unambiguous_leftGrouped (by decide) (by decide) hA)

theorem opens_expressions (levels : Nat) : (expressions levels).Opens := by
  cases levels with
  | zero => exact opens_leftGrouped (opens_leftGrouped opens_factors)
  | succ levels => exact opens_leftGrouped (opens_leftGrouped opens_factors)

theorem unambiguous_expressions (levels : Nat) : Unambiguous (expressions levels) closers := by
  induction levels with
  | zero => exact unambiguous_sums (unambiguous_factors nofun nofun)
  | succ levels ih => exact unambiguous_sums (unambiguous_factors ih (opens_expressions levels))

/-! ### Whole statements -/

theorem followed_nil (signs : List Sign) : Followed signs [] := nofun

theorem expressions_tokens_inj {levels : Nat} {t t' : (expressions levels).Tree}
    (h : (expressions levels).tokens t = (expressions levels).tokens t') : t = t' := by
  have hnil := followed_nil closers
  exact (unambiguous_expressions levels t t' [] [] hnil hnil (congrArg (· ++ []) h)).1

theorem statementEnd_eq_ok {input rest : List Lexeme} {a : Unit}
    (h : (Grammar.statementEnd input).outcome = .ok (a, rest)) : input = [] := by
  cases input with
  | nil => rfl
  | cons l input => cases h

theorem expressionStatement_eq_ok {u : Setting} (hu : u.IsPlain) {lexemes : List Lexeme}
    (hplain : WithoutGeometry (tokensOf lexemes)) {e : Expression} :
    (Translation.expressionStatement u lexemes).map Prod.fst = .ok e ↔
      (expressions maxNesting).Derives (tokensOf lexemes) e := by
  have hreads := reads_expression hu maxNesting
  constructor
  · intro h
    cases hread : Translation.expressionStatement u lexemes with
    | error stop =>
      rw [hread] at h
      cases h
    | ok x =>
      rw [hread] at h
      cases h
      obtain ⟨e, mid, hexpression, hend⟩ := bind_eq_ok hread
      obtain ⟨_, rest, hstatementEnd, hpure⟩ := bind_eq_ok hend
      cases hpure
      obtain rfl := statementEnd_eq_ok (read_eq_ok hstatementEnd)
      obtain ⟨t, htokens, hvalue⟩ := hreads.sound hplain hexpression
      exact ⟨t, (htokens.trans (List.append_nil _)).symm, hvalue⟩
  · rintro ⟨t, htokens, rfl⟩
    obtain ⟨rest, hread, hrest⟩ :=
      hreads.complete hplain (htokens.symm.trans (List.append_nil _).symm) (followed_nil closers)
    obtain rfl := List.map_eq_nil_iff.mp hrest
    have hend : (Grammar.statementEnd []).outcome = .ok ((), []) := rfl
    rw [Translation.expressionStatement, Translation.toEnd, bind_of_ok hread, bind_of_ok (read_of_ok hend)]
    rfl

/-- **A compiler makes exactly the trees of the grammar of expressions.**  In both dialects, some lexemes without
a word that starts a geometry come to an expression, exactly if it is derived from them; statements come to the
same as their lexemes, and every number in a statement has a value.  The derivation is the only one. -/
theorem expression_iff_derived (dialect : Dialect) (resolver : CrsResolver) (lexemes : List Lexeme)
    (hplain : WithoutGeometry (tokensOf lexemes)) :
    (∀ atEnd e, ((⟨dialect, ⟨.plain, resolver⟩⟩ : Compiler).assemble .expression atEnd lexemes).1.bind
        (Compiler.treesOf Entry.toExpression) = .ok [e] ↔
      (expressions maxNesting).Derives (tokensOf lexemes) e) ∧
    (∀ statement, scan statement = .ok lexemes →
      (∀ e, ((⟨dialect, ⟨.plain, resolver⟩⟩ : Compiler).compileExpression statement).result = .ok e ↔
        (expressions maxNesting).Derives (tokensOf lexemes) e) ∧
      ∀ text long negative, .number text long ∈ tokensOf lexemes →
        ∃ v, Number.readSigned? negative text = some v) ∧
    ∀ t t' : (expressions maxNesting).Tree,
      (expressions maxNesting).tokens t = (expressions maxNesting).tokens t' → t = t' := by
  let u : Setting := ⟨dialect, ⟨.plain, resolver⟩, fun _ => true⟩
  have hu : u.IsPlain := ⟨fun _ => rfl, rfl⟩
  refine ⟨fun atEnd e => ?_, fun statement hscan => ⟨fun e => ?_, ?_⟩, fun t t' => expressions_tokens_inj⟩
  · have hanswers : Answers u HoldsOperand atEnd (Grammar.statementParts dialect lexemes .expression) _ :=
      answers_expression lexemes
    rw [← expressionStatement_eq_ok hu hplain]
    refine (hanswers.trees_eq_ok hu.permits fun _ _ h => h.toExpression).trans ?_
    cases Translation.expressionStatement u lexemes <;> simp [Except.map]
  · have hreports := compileExpression_reports (u := u) hscan
    rw [← expressionStatement_eq_ok hu hplain]
    exact ⟨hreports.eq_ok (not_unpermittedIn hu.permits _), fun hsaid => (hsaid ▸ hreports).of_ok⟩
  · intro text long negative hnumber
    obtain ⟨l, hl, htoken⟩ := List.mem_map.mp hnumber
    exact (numeral_of_scan hscan l hl text long htoken).readSigned_isSome negative

theorem expression_iff_derived_differences :
    ∃ lexemes, scan "a - 1 - f(b)" = .ok lexemes ∧ WithoutGeometry (tokensOf lexemes) ∧
      ((⟨.cql, ⟨.plain, CrsRegistry.wellKnown.resolver⟩⟩ : Compiler).compileExpression "a - 1 - f(b)").result =
        .ok (.arithmetic .sub (.arithmetic .sub (.property ⟨["a"]⟩) (.literal (.number (.integer 1))))
          (.function "f" [.property ⟨["b"]⟩])) := by
  have hscanned : ∃ lexemes, scan "a - 1 - f(b)" = .ok lexemes ∧ tokensOf lexemes =
      [.word "a" none, .sign .minus, .number "1" false, .sign .minus, .word "f" none, .sign .leftParen,
        .word "b" none, .sign .rightParen] :=
    ⟨[⟨.word "a" none, ⟨1, 1⟩⟩, ⟨.sign .minus, ⟨1, 3⟩⟩, ⟨.number "1" false, ⟨1, 5⟩⟩, ⟨.sign .minus, ⟨1, 7⟩⟩,
      ⟨.word "f" none, ⟨1, 9⟩⟩, ⟨.sign .leftParen, ⟨1, 10⟩⟩, ⟨.word "b" none, ⟨1, 11⟩⟩,
      ⟨.sign .rightParen, ⟨1, 12⟩⟩], by decide +kernel, rfl⟩
  obtain ⟨lexemes, hscan, htokens⟩ := hscanned
  have hplain : WithoutGeometry (tokensOf lexemes) := by
    rw [htokens]
    unfold WithoutGeometry
    decide +kernel
  refine ⟨lexemes, hscan, hplain, (((expression_iff_derived .cql _ lexemes hplain).2.1 _ hscan).1 _).mpr ?_⟩
  rw [htokens]
  have hname : ∀ text ∈ ["a", "f", "b"], (Token.word text none).truth? = none := by decide +kernel
  have hone : Number.readSigned? false "1" = some (.integer 1) := rfl
  exact ⟨.more (.more (.single (.single (.property ⟨"a", none, hname _ (by decide)⟩ [])))
      ⟨(.minus, .sub), by decide, .single (.number ⟨false, "1", false, .integer 1, hone⟩)⟩)
      ⟨(.minus, .sub), by decide, .single (.call ⟨"f", none, hname _ (by decide)⟩
        [.single (.single (.property ⟨"b", none, hname _ (by decide)⟩ []))])⟩, rfl, rfl⟩

end GeoFilter
