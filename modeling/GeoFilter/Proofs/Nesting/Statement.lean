import GeoFilter.Proofs.Compilation
import GeoFilter.Proofs.Nesting.Siblings

/-!
# Nesting of statements

The limit of nesting is exact: a statement fails at the opener that is one too many, and with no more openers than the
limit a filter compiles between them and the signs that close them.  Levels that are closed again never count.
-/

namespace GeoFilter

open Assembly (assembleParts)

/-! ### Parts of statements -/

/-- Whether a compiler makes a single tree of lexemes that a phrase reads up to their end, whatever stands for the end. -/
def Compiler.MakesTree (compiler : Compiler) (phrase : Phrase Unit) (toTree : Entry → Except StackDefect α)
    (lexemes : List Lexeme) (tree : α) : Prop :=
  ∀ atEnd, (assembleParts compiler.dialect compiler.toolkit atEnd [(Grammar.toEnd phrase lexemes).toPart]).1.bind
    (Compiler.treesOf toTree) = .ok [tree]

/-- Whether a compiler makes a predicate of a filter with the given number of levels left for nesting. -/
def Compiler.MakesFilter (compiler : Compiler) (levels : Nat) : List Lexeme → Predicate → Prop :=
  compiler.MakesTree (Grammar.filter compiler.dialect levels) Entry.toPredicate

/-- Whether a compiler makes a predicate of lexemes that AND and OR do not take apart. -/
def Compiler.MakesNegation (compiler : Compiler) (levels : Nat) : List Lexeme → Predicate → Prop :=
  compiler.MakesTree (Grammar.negation compiler.dialect levels) Entry.toPredicate

/-- Whether a compiler makes an expression with the given number of levels left for nesting. -/
def Compiler.MakesExpression (compiler : Compiler) (levels : Nat) : List Lexeme → Expression → Prop :=
  compiler.MakesTree (Grammar.expression compiler.dialect levels) Entry.toExpression

/-- A statement that has openers in front of some lexemes and the signs that close them behind. -/
structure Encloses (dialect : Dialect) (openers lexemes : List Lexeme) (statement : String) : Prop where
  opens : ∀ l ∈ openers, l.opens dialect = true
  scanned : ∃ closing, tokensOf closing = closingTokens dialect openers ∧
    scan statement = .ok (openers ++ lexemes ++ closing)

variable {compiler : Compiler} {levels : Nat} {lexemes : List Lexeme} {statement : String}

theorem makesTree_iff {phrase : Phrase Unit} {c : Translation α} {R : α → Entry → Prop}
    (hrealizes : Realizes compiler.setting phrase [] c (Pushes R [])) {toTree : Entry → Except StackDefect α}
    (hR : ∀ a e, R a e → toTree e = .ok a) {tree : α} :
    compiler.MakesTree phrase toTree lexemes tree ↔ c lexemes = .ok (tree, []) := by
  have hiff : ∀ atEnd, (assembleParts compiler.dialect compiler.toolkit atEnd
      [(Grammar.toEnd phrase lexemes).toPart]).1.bind (Compiler.treesOf toTree) = .ok [tree] ↔
        c lexemes = .ok (tree, []) := by
    intro atEnd
    have hanswers : Answers compiler.setting R atEnd [(Grammar.toEnd phrase lexemes).toPart] _ :=
      answers_single (realizes_toEnd hrealizes lexemes)
    rw [← toEnd_eq_ok]
    refine (hanswers.trees_eq_ok (fun _ => rfl) hR).trans ?_
    cases Translation.toEnd c lexemes <;> simp [Except.map]
  exact ⟨fun h => (hiff ⟨"", ⟨1, 1⟩⟩).mp (h _), fun h atEnd => (hiff atEnd).mpr h⟩

theorem makesFilter_iff {p : Predicate} :
    compiler.MakesFilter levels lexemes p ↔ Translation.filter compiler.setting levels lexemes = .ok (p, []) :=
  makesTree_iff (realizes_filter levels ResultsStack.settled_nil) fun _ _ h => h.toPredicate

theorem makesNegation_iff {p : Predicate} :
    compiler.MakesNegation levels lexemes p ↔ Translation.negation compiler.setting levels lexemes = .ok (p, []) :=
  makesTree_iff (realizes_negation levels ResultsStack.settled_nil) fun _ _ h => h.toPredicate

theorem makesExpression_iff {x : Expression} :
    compiler.MakesExpression levels lexemes x ↔
      Translation.expression compiler.setting levels lexemes = .ok (x, []) :=
  makesTree_iff (realizes_expression levels ResultsStack.settled_nil) fun _ _ h => h.toExpression

theorem exists_makesFilter_iff :
    (∃ p, compiler.MakesFilter levels lexemes p) ↔ Accepts (Translation.filter compiler.setting levels) lexemes :=
  exists_congr fun _ => makesFilter_iff

theorem exists_makesExpression_iff :
    (∃ x, compiler.MakesExpression levels lexemes x) ↔
      Accepts (Translation.expression compiler.setting levels) lexemes :=
  exists_congr fun _ => makesExpression_iff

/-! ### Whole statements -/

theorem compileFilter_eq_ok_iff (hscan : scan statement = .ok lexemes) {p : Predicate} :
    (compiler.compileFilter statement).result = .ok p ↔ compiler.MakesFilter maxNesting lexemes p := by
  have hreports := compileFilter_reports (u := compiler.setting) hscan
  rw [makesFilter_iff, ← toEnd_eq_ok]
  exact ⟨hreports.eq_ok (not_unpermittedIn (fun _ => rfl) _), fun hsaid => (hsaid ▸ hreports).of_ok⟩

theorem compileExpression_eq_ok_iff (hscan : scan statement = .ok lexemes) {x : Expression} :
    (compiler.compileExpression statement).result = .ok x ↔ compiler.MakesExpression maxNesting lexemes x := by
  have hreports := compileExpression_reports (u := compiler.setting) hscan
  rw [makesExpression_iff, ← toEnd_eq_ok]
  exact ⟨hreports.eq_ok (not_unpermittedIn (fun _ => rfl) _), fun hsaid => (hsaid ▸ hreports).of_ok⟩

theorem compileFilter_tooDeep {openers rest : List Lexeme} {l : Lexeme}
    (hopeners : ∀ o ∈ openers, o.opens compiler.dialect = true) (hscan : scan statement = .ok (openers ++ rest))
    (hl : openers[maxNesting]? = some l) :
    (compiler.compileFilter statement).result =
      .error (.error (Finding.inStatement ⟨.tooDeep maxNesting, l.source, none⟩ statement)) := by
  have hreports := compileFilter_reports (u := compiler.setting) hscan
  have hfilter : Translation.filter compiler.setting maxNesting (openers ++ rest) = _ :=
    filter_tooDeep hopeners hl rest
  have hfault : Translation.filterStatement compiler.setting (openers ++ rest) = _ := Translation.bind_of_error hfilter
  rw [hfault] at hreports
  cases hreports with
  | fault h => exact h

theorem iterate_nots (not : Predicate → Predicate) (openers : List Lexeme) (q : Predicate) :
    not^[(openers.rdropWhile Lexeme.isNot).countP Lexeme.isNot] (not^[(openers.rtakeWhile Lexeme.isNot).length] q) =
      not^[openers.countP Lexeme.isNot] q := by
  have hinner : (openers.rtakeWhile Lexeme.isNot).countP Lexeme.isNot = (openers.rtakeWhile Lexeme.isNot).length :=
    List.countP_eq_length.mpr fun _ => List.mem_rtakeWhile_imp
  have hcount := congrArg (List.countP Lexeme.isNot) (List.rdropWhile_append_rtakeWhile (p := Lexeme.isNot) (l := openers))
  rw [List.countP_append, hinner] at hcount
  rw [← hcount, Function.iterate_add_apply]

theorem compileFilter_wrapped {openers first behind : List Lexeme} {q : Predicate} {tail : FilterTail}
    (hfirst : Translation.negation compiler.setting levels first = .ok (q, []))
    (htail : Translation.filterTail compiler.setting levels behind = .ok (tail, []))
    (hencloses : Encloses compiler.dialect openers (first ++ behind) statement)
    (hlevels : openers.length + levels ≤ maxNesting) :
    (compiler.compileFilter statement).result =
      .ok (compiler.toolkit.factory.not^[(openers.rdropWhile Lexeme.isNot).countP Lexeme.isNot]
        (tail.attach compiler.toolkit.factory
          (compiler.toolkit.factory.not^[(openers.rtakeWhile Lexeme.isNot).length] q))) := by
  obtain ⟨closing, hclosing, hscan⟩ := hencloses.scanned
  rw [compileFilter_eq_ok_iff hscan, makesFilter_iff]
  exact filter_wrapped (fun _ => rfl) hfirst htail hencloses.opens hlevels hclosing

/-- NOT in front of a single predicate, or outside of a group, negates all of a filter. -/
theorem compileFilter_negated {openers : List Lexeme} {p : Predicate} (hp : compiler.MakesFilter levels lexemes p)
    (hencloses : Encloses compiler.dialect openers lexemes statement) (hlevels : openers.length + levels ≤ maxNesting)
    (hsingle : (∀ o ∈ openers.getLast?, o.isNot = false) ∨ ∃ q, compiler.MakesNegation levels lexemes q) :
    (compiler.compileFilter statement).result =
      .ok (compiler.toolkit.factory.not^[openers.countP Lexeme.isNot] p) := by
  rcases hsingle with hlast | ⟨q, hq⟩
  · obtain ⟨first, behind, q, tail, rfl, hfirst, htail, rfl⟩ := first_of_filter (makesFilter_iff.mp hp)
    have hdrop : openers.rdropWhile Lexeme.isNot = openers := by
      rw [List.rdropWhile_eq_self_iff]
      intro hne hnot
      cases (hlast _ (List.getLast?_eq_some_getLast hne)).symm.trans hnot
    have htake : openers.rtakeWhile Lexeme.isNot = [] := by
      rw [List.rtakeWhile_eq_nil_iff]
      intro hne hnot
      cases (hlast _ (List.getLast?_eq_some_getLast hne)).symm.trans hnot
    have hcompiles := compileFilter_wrapped hfirst htail hencloses hlevels
    rwa [hdrop, htake] at hcompiles
  · have hq := makesNegation_iff.mp hq
    have hsame := (filter_of_negation ends_nil hq).symm.trans (makesFilter_iff.mp hp)
    obtain ⟨rfl, _⟩ := Prod.mk.inj (Except.ok.inj hsame)
    have htail : Translation.filterTail compiler.setting levels [] = .ok (⟨[], []⟩, []) := rfl
    rw [← iterate_nots]
    rw [← List.append_nil lexemes] at hencloses
    exact compileFilter_wrapped hq htail hencloses hlevels

/-- **The limit of nesting is exact.**  Openers are NOT and the signs that open groups.  If there are more of them than
the limit, a statement fails at the first one beyond it, whatever stands behind.  Otherwise a filter that keeps to the
levels which are left compiles between the openers and what closes them.  Each NOT negates all of the filter if the last
opener opens a group or the filter is a single predicate; if not, those NOT directly in front of the filter negate its
first predicate, which AND and OR then connect with what stands behind it.  Any number of filters with AND and OR
between them, and any number of arguments, have the levels that each has alone. -/
theorem nesting_exact (compiler : Compiler) :
    (∀ statement openers rest l, (∀ o ∈ openers, o.opens compiler.dialect = true) →
      scan statement = .ok (openers ++ rest) → openers[maxNesting]? = some l →
      (compiler.compileFilter statement).result =
        .error (.error (Finding.inStatement ⟨.tooDeep maxNesting, l.source, none⟩ statement))) ∧
    (∀ levels lexemes p, compiler.MakesFilter levels lexemes p → ∀ statement openers,
      Encloses compiler.dialect openers lexemes statement → openers.length + levels ≤ maxNesting →
      ((∀ o ∈ openers.getLast?, o.isNot = false) ∨ ∃ q, compiler.MakesNegation levels lexemes q) →
      (compiler.compileFilter statement).result =
        .ok (compiler.toolkit.factory.not^[openers.countP Lexeme.isNot] p)) ∧
    (∀ levels lexemes p, compiler.MakesFilter levels lexemes p → ∃ first behind q, ∃ tail : FilterTail,
      lexemes = first ++ behind ∧ compiler.MakesNegation levels first q ∧ p = tail.attach compiler.toolkit.factory q ∧
      ∀ statement openers, Encloses compiler.dialect openers lexemes statement →
        openers.length + levels ≤ maxNesting → (compiler.compileFilter statement).result =
          .ok (compiler.toolkit.factory.not^[(openers.rdropWhile Lexeme.isNot).countP Lexeme.isNot]
            (tail.attach compiler.toolkit.factory
              (compiler.toolkit.factory.not^[(openers.rtakeWhile Lexeme.isNot).length] q)))) ∧
    (∀ levels first others, (∃ p, compiler.MakesFilter levels first p) →
      (∀ s ∈ others, (s.separator.token.isWord "AND" = true ∨ s.separator.token.isWord "OR" = true) ∧
        ∃ p, compiler.MakesFilter levels s.lexemes p) →
      ∃ p, compiler.MakesFilter levels (withSiblings first others) p) ∧
    (∀ levels (name opening closing : Lexeme) text quote inside, name.token = .word text quote →
      (∀ keyword ∈ name.token.keyword?, keyword.isCallable = true) → opening.token = .sign .leftParen →
      closing.token = .sign .rightParen →
      (inside = [] ∨ ∃ first others, inside = withSiblings first others ∧ (∃ x, compiler.MakesExpression levels first x) ∧
        ∀ s ∈ others, s.separator.token = .sign .comma ∧ ∃ x, compiler.MakesExpression levels s.lexemes x) →
      ∃ x, compiler.MakesExpression (levels + 1) (name :: opening :: (inside ++ [closing])) x) ∧
    (∀ levels (name : String) place (op : ComparisonOp) place' right, Keyword.ofText? name = none →
      (∃ x, compiler.MakesExpression levels right x) →
      ∃ p, compiler.MakesFilter levels (⟨.word name none, place⟩ :: ⟨.sign op.sign, place'⟩ :: right) p) ∧
    ∀ statement lexemes, scan statement = .ok lexemes →
      (∀ p, (compiler.compileFilter statement).result = .ok p ↔ compiler.MakesFilter maxNesting lexemes p) ∧
      ∀ x, (compiler.compileExpression statement).result = .ok x ↔ compiler.MakesExpression maxNesting lexemes x := by
  have hpermits : ∀ r, compiler.setting.permits r = true := fun _ => rfl
  refine ⟨fun statement openers rest l hopeners hscan hl => compileFilter_tooDeep hopeners hscan hl,
    fun levels lexemes p hp statement openers hencloses hlevels hsingle =>
      compileFilter_negated hp hencloses hlevels hsingle, fun levels lexemes p hp => ?_,
    fun levels first others hfirst hothers => ?_,
    fun levels name opening closing text quote inside hname hcallable hopening hclosing hinside => ?_,
    fun levels name place op place' right hfree hright => ?_,
    fun statement lexemes hscan => ⟨fun p => compileFilter_eq_ok_iff hscan, fun x => compileExpression_eq_ok_iff hscan⟩⟩
  · obtain ⟨first, behind, q, tail, rfl, hfirst, htail, rfl⟩ := first_of_filter (makesFilter_iff.mp hp)
    exact ⟨first, behind, q, tail, rfl, makesNegation_iff.mpr hfirst, rfl, fun statement openers hencloses hlevels =>
      compileFilter_wrapped hfirst htail hencloses hlevels⟩
  · simp only [exists_makesFilter_iff] at hfirst hothers ⊢
    exact accepts_filter_row hpermits hfirst hothers
  · simp only [exists_makesExpression_iff] at hinside ⊢
    refine accepts_call hpermits ?_ hname hcallable hopening hclosing
    rcases hinside with rfl | ⟨first, others, rfl, hfirst, hothers⟩
    · exact .inl rfl
    · exact .inr (joins_withSiblings hfirst fun s hs => (hothers s hs).imp_left beq_iff_eq.mpr)
  · rw [exists_makesExpression_iff] at hright
    rw [exists_makesFilter_iff]
    exact accepts_comparison hpermits hfree place op place' hright

/-- Too many groups, NOT around and inside of a group, NOT in front of a conjunction, and siblings. -/
theorem nesting_exact_ecql :
    let compiler : Compiler := ⟨.ecql, ⟨.plain, CrsRegistry.wellKnown.resolver⟩⟩
    let deep := String.ofList (List.replicate 128 '(' ++ ['['])
    let test : List Lexeme := [⟨.word "a" none, ⟨1, 10⟩⟩, ⟨.sign .equal, ⟨1, 12⟩⟩, ⟨.number "1" false, ⟨1, 14⟩⟩]
    let conjunction := withSiblings test [⟨⟨.word "AND" none, ⟨1, 16⟩⟩, [⟨.word "INCLUDE" none, ⟨1, 20⟩⟩]⟩]
    let call : List Lexeme := ⟨.word "f" none, ⟨1, 1⟩⟩ :: ⟨.sign .leftParen, ⟨1, 2⟩⟩ ::
      (withSiblings [⟨.word "a" none, ⟨1, 3⟩⟩] [⟨⟨.sign .comma, ⟨1, 4⟩⟩, [⟨.number "1" false, ⟨1, 6⟩⟩]⟩] ++
        [⟨.sign .rightParen, ⟨1, 7⟩⟩])
    (compiler.compileFilter deep).result =
        .error (.error (Finding.inStatement ⟨.tooDeep maxNesting, ⟨"[", ⟨1, 129⟩⟩, none⟩ deep)) ∧
      (∃ p, (compiler.compileFilter "NOT [NOT a = 1]").result = .ok (.not (.not p))) ∧
      (∃ q, ∃ tail : FilterTail,
        (compiler.compileFilter "         a = 1 AND INCLUDE").result = .ok (tail.attach .plain q) ∧
        (compiler.compileFilter "     NOT a = 1 AND INCLUDE").result = .ok (tail.attach .plain (.not q))) ∧
      (∃ p, compiler.MakesFilter 0 conjunction p) ∧ (∃ x, compiler.MakesExpression 1 call x) ∧
      ∃ p, compiler.MakesFilter 1 (⟨.word "a" none, ⟨1, 1⟩⟩ :: ⟨.sign .equal, ⟨1, 2⟩⟩ :: call) p := by
  intro compiler deep test conjunction call
  have hmakes : ∀ lexemes, (Translation.filter compiler.setting 0 lexemes).toOption.map Prod.snd = some [] →
      ∃ p, compiler.MakesFilter 0 lexemes p := fun _ h => exists_makesFilter_iff.mpr (accepts_of_snd h)
  obtain ⟨htooDeep, hnegated, hfirst, hsiblings, hcall, hcomparison, _⟩ := nesting_exact compiler
  let opening : Lexeme := ⟨.sign .leftBracket, ⟨1, 129⟩⟩
  let openers : List Lexeme := (List.range 128).map (fun i => ⟨.sign .leftParen, ⟨1, i + 1⟩⟩) ++ [opening]
  have hscan : scan deep = .ok (openers ++ []) := by decide +kernel
  have htest : ∃ p, compiler.MakesFilter 0 test p := hmakes test (by decide +kernel)
  have hinclude : ∃ p, compiler.MakesFilter 0 [⟨.word "INCLUDE" none, ⟨1, 20⟩⟩] p := hmakes _ (by decide +kernel)
  have hrow : ∃ p, compiler.MakesFilter 0 conjunction p := by
    refine hsiblings 0 test _ htest fun s hs => ?_
    obtain rfl := List.mem_singleton.mp hs
    exact ⟨.inl (by decide +kernel), hinclude⟩
  have harguments : ∀ lexemes, (Translation.expression compiler.setting 0 lexemes).toOption.map Prod.snd = some [] →
      ∃ x, compiler.MakesExpression 0 lexemes x := fun _ h => exists_makesExpression_iff.mpr (accepts_of_snd h)
  have hcalls : ∃ x, compiler.MakesExpression 1 call x := by
    have hfree : Keyword.ofText? "f" = none := by decide +kernel
    refine hcall 0 _ _ _ "f" none _ rfl (fun keyword hkeyword => ?_) rfl rfl
      (.inr ⟨[⟨.word "a" none, ⟨1, 3⟩⟩], _, rfl, harguments _ (by decide +kernel), fun s hs => ?_⟩)
    · cases hfree.symm.trans hkeyword
    · obtain rfl := List.mem_singleton.mp hs
      exact ⟨rfl, harguments _ (by decide +kernel)⟩
  refine ⟨htooDeep deep openers [] opening (by decide +kernel) hscan (by decide +kernel), ?_, ?_, hrow, hcalls,
    hcomparison 1 "a" ⟨1, 1⟩ .eq ⟨1, 2⟩ call (by decide +kernel) hcalls⟩
  · obtain ⟨p, hp⟩ := htest
    obtain ⟨q, hq⟩ : Accepts (Translation.negation compiler.setting 0) test := accepts_of_snd (by decide +kernel)
    let openers : List Lexeme := [⟨.word "NOT" none, ⟨1, 1⟩⟩, ⟨.sign .leftBracket, ⟨1, 5⟩⟩, ⟨.word "NOT" none, ⟨1, 6⟩⟩]
    have hencloses : Encloses .ecql openers test "NOT [NOT a = 1]" :=
      ⟨by decide +kernel, [⟨.sign .rightBracket, ⟨1, 15⟩⟩], rfl, by decide +kernel⟩
    exact ⟨p, hnegated 0 test p hp _ openers hencloses (by decide) (.inr ⟨q, makesNegation_iff.mpr hq⟩)⟩
  · obtain ⟨p, hp⟩ := hrow
    obtain ⟨_, _, q, tail, _, _, rfl, hcompiles⟩ := hfirst 0 conjunction p hp
    have halone : Encloses .ecql [] conjunction "         a = 1 AND INCLUDE" := ⟨nofun, [], rfl, by decide +kernel⟩
    have hnot : Encloses .ecql [⟨.word "NOT" none, ⟨1, 6⟩⟩] conjunction "     NOT a = 1 AND INCLUDE" :=
      ⟨by decide +kernel, [], rfl, by decide +kernel⟩
    exact ⟨q, tail, hcompiles _ _ halone (by decide), hcompiles _ _ hnot (by decide)⟩

theorem conjunction_not_negated :
    let compiler : Compiler := ⟨.ecql, ⟨.plain, CrsRegistry.wellKnown.resolver⟩⟩
    ∃ opener lexemes p, opener.token = .word "NOT" none ∧ compiler.MakesFilter 0 lexemes p ∧
      Encloses .ecql [opener] lexemes "NOT a = 1 AND b = 2" ∧
      (compiler.compileFilter "NOT a = 1 AND b = 2").result ≠
        .ok (compiler.toolkit.factory.not^[[opener].countP Lexeme.isNot] p) := by
  intro compiler
  let opener : Lexeme := ⟨.word "NOT" none, ⟨1, 1⟩⟩
  let lexemes : List Lexeme := [⟨.word "a" none, ⟨1, 5⟩⟩, ⟨.sign .equal, ⟨1, 7⟩⟩, ⟨.number "1" false, ⟨1, 9⟩⟩,
    ⟨.word "AND" none, ⟨1, 11⟩⟩, ⟨.word "b" none, ⟨1, 15⟩⟩, ⟨.sign .equal, ⟨1, 17⟩⟩, ⟨.number "2" false, ⟨1, 19⟩⟩]
  have hencloses : Encloses .ecql [opener] lexemes "NOT a = 1 AND b = 2" :=
    ⟨by decide +kernel, [], rfl, by decide +kernel⟩
  obtain ⟨p, hp⟩ : ∃ p, compiler.MakesFilter 0 lexemes p :=
    exists_makesFilter_iff.mpr (accepts_of_snd (by decide +kernel))
  refine ⟨opener, lexemes, p, rfl, hp, hencloses, fun hnot => ?_⟩
  -- the statement compiles to a conjunction of two
  have htwo : ((compiler.compileFilter "NOT a = 1 AND b = 2").result.toOption.map fun p => p.conjuncts.length) =
      some 2 := by decide +kernel
  rw [hnot] at htwo
  cases htwo

end GeoFilter
