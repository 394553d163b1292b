import GeoFilter.Proofs.Parallel.Pattern
import GeoFilter.Proofs.Parallel.Statement
import GeoFilter.Proofs.Tokenizer

/-!
# Layout

What comes of a statement is decided by its tokens.  Where they stand is told in errors, but it makes no difference to
a tree or to what is wrong, except in a pattern without quotes: its pieces have to stand right behind each other.
-/

namespace GeoFilter

open Translation (read)

/-! ### Stops -/

/-- Whether a translation stops in a pattern without quotes, because there is a space in it. -/
def Stop.InPattern (stop : Stop) : Prop := ∃ token, stop = .fault (.inPattern token)

/-- Stops at the same fault, wherever it was found. -/
inductive Stop.SameFault : Stop → Stop → Prop
  | fault {f f' : SyntaxFault} (h : ∀ atEnd atEnd', (f'.toFinding atEnd').fault = (f.toFinding atEnd).fault) :
      SameFault (.fault f) (.fault f')
  | finding {f f' : Finding} (h : f'.fault = f.fault) : SameFault (.finding f) (.finding f')

def SourceToken.SameText (token token' : SourceToken) : Prop := token'.text = token.text

theorem texts_of_sameText {tokens tokens' : List SourceToken}
    (h : List.Forall₂ SourceToken.SameText tokens tokens') :
    tokens'.map SourceToken.text = tokens.map SourceToken.text := by
  induction h with
  | nil => rfl
  | cons h _ ih => rw [List.map_cons, List.map_cons, ih, h]

theorem SyntaxFault.Beside.sameFault {f f' : SyntaxFault} (h : f.Beside SourceToken.SameText f') :
    Stop.SameFault (.fault f) (.fault f') := by
  refine .fault fun atEnd atEnd' => ?_
  cases h with
  | unexpected expected h => exact congrArg (Fault.unexpected expected) h
  | endReached | tooDeep => rfl

theorem Finding.Beside.sameFault {f f' : Finding} (h : f.Beside SourceToken.SameText f') :
    Stop.SameFault (.finding f) (.finding f') := by
  refine .finding ?_
  cases h with
  | geometry => rfl
  | srid h => exact congrArg Fault.invalidSrid h
  | pattern h => exact congrArg Fault.invalidDe9im h
  | units h => rw [texts_of_sameText h]

/-! ### The same tokens with one toolkit -/

def layoutPairing (dialect : Dialect) (kit : Toolkit) : Pairing where
  left := ⟨dialect, kit, fun _ => true⟩
  right := ⟨dialect, kit, fun _ => true⟩
  input ls ls' := tokensOf ls' = tokensOf ls ∧ Numerals ls
  source := SourceToken.SameText
  strays := Stop.InPattern
  halts stop stop? := stop.InPattern ∨ ∃ stop', stop? = some stop' ∧ (stop'.InPattern ∨ stop.SameFault stop')
  dialect_eq := rfl (a := dialect)
  permits_left := permits_all dialect kit
  permits_right := permits_all dialect kit
  input_nil h := List.map_eq_nil_iff.mp h.1
  input_cons := by
    rintro l ls ls' ⟨htokens, hnumerals⟩
    obtain ⟨place, rest', rfl, hrest⟩ := tokensOf_eq_cons htokens
    exact ⟨_, rest', rfl, .refl _, rfl, hrest, fun m hm => hnumerals m (List.mem_cons_of_mem _ hm)⟩
  numeral h hnumber := h.2.source List.mem_cons_self hnumber
  source_signed := by
    rintro ⟨text, place⟩ ⟨_, place'⟩ ⟨more, _⟩ ⟨_, _⟩ rfl rfl
    rfl
  halts_of_none := by
    rintro stop stop? (h | ⟨_, h, _⟩)
    · exact .inl h
    · cases h
  halts_of_strays _ stop' h := .inr ⟨stop', rfl, .inl h⟩
  halts_fault h := .inr ⟨_, rfl, .inr h.sameFault⟩
  halts_finding h := .inr ⟨_, rfl, .inr h.sameFault⟩

variable {dialect : Dialect} {kit : Toolkit}

theorem layout_text {text text' : String} (h : (layoutPairing dialect kit).Texts text text') : text' = text := by
  induction h with
  | taken h => exact h.source
  | joined _ h ih => rw [ih, show _ = _ from h.source]

theorem layout_texts {texts texts' : List String}
    (h : List.Forall₂ (layoutPairing dialect kit).Texts texts texts') : texts' = texts :=
  eq_of_forall₂_eq (h.imp fun _ _ htext => (layout_text htext).symm)

/-- A pattern without quotes is the same in every layout in which there is no space in it. -/
theorem layout_barePatternAt {start start' : SourceToken} :
    Parallel (layoutPairing dialect kit) SourceToken.SameText (read (barePatternAt start))
      (read (barePatternAt start')) := by
  rintro ls ls' ⟨htokens, hnumerals⟩
  have hrest : (layoutPairing dialect kit).input (ls.dropWhile fun l => l.token.isPatternPiece)
      (ls'.dropWhile fun l => l.token.isPatternPiece) := by
    refine ⟨?_, fun l hl => hnumerals l ((List.dropWhile_suffix _).subset hl)⟩
    have hdrop : ∀ ms : List Lexeme, tokensOf (ms.dropWhile fun l => l.token.isPatternPiece) =
        (tokensOf ms).dropWhile Token.isPatternPiece := fun ms => by
      rw [tokensOf, tokensOf, List.dropWhile_map]
      rfl
    rw [hdrop, hdrop, htokens]
  unfold Translation.read barePatternAt
  rcases barePattern_cases none ls with ⟨token, hleft⟩ | hleft
  · rw [hleft]
    exact .stop (.inl ⟨token, rfl⟩)
  rcases barePattern_cases none ls' with ⟨token', hright⟩ | hright
  · have hstray : Stop.InPattern (.fault (.inPattern token')) := ⟨token', rfl⟩
    rw [hright]
    exact .of_stray hstray _
  rw [hleft, hright, htokens]
  dsimp only
  split
  · exact Parallel.unexpected _ _ _ hrest
  · exact .value rfl hrest

/-- The expressions of the same tokens are the same, whatever the factory and the resolver. -/
def layoutExpressions (dialect : Dialect) (kit : Toolkit) : ExpressionPairing where
  toPairing := layoutPairing dialect kit
  geometry := Eq
  factor _ := Eq
  product _ := Eq
  sum _ := Eq
  unlocated := @unlocated_itself
  located {g srid token token'} _ _ := by
    unfold qualified
    dsimp only [layoutPairing]
    cases kit.resolver srid with
    | ok crs => exact .value rfl
    | error e => exact .stop (.inr ⟨_, rfl, .inr (.finding rfl)⟩)
  geometryLiteral _ hg := by rw [hg]
  literal := @literal_itself
  property _ _ hnames := by
    rw [layout_texts hnames]
    rfl
  function {name name' args args' levels} hname hargs := by
    rw [eq_of_forall₂_eq (hargs.imp fun _ _ h => h.const), layout_text hname]
    rfl
  grouped h := h.const
  product_of_factor h := h
  sum_of_product h := h
  multiplied op hx hy := by
    rw [hx, hy]
    rfl
  added op hx hy := by
    rw [hx, hy]
    rfl

def layoutPredicates (dialect : Dialect) (kit : Toolkit) : PredicatePairing where
  toExpressionPairing := layoutExpressions dialect kit
  test _ := Eq
  negation _ _ p p' _ := p = p'
  conjunction _ _ p p' _ := p = p'
  disjunction _ _ p p' _ := p = p'
  written _ text text' _ := text = text'
  pattern := by
    refine (spanning_de9imPattern (R := fun _ token token' _ => token.SameText token')
      (fun _ _ _ _ h => h.source) fun _ _ _ => layout_barePatternAt.spanning fun _ _ _ _ h => h).mono ?_
    rintro _ token token' _ hsame
    exact ⟨hsame, hsame.symm, by rw [hsame]⟩
  units h := by rw [texts_of_sameText h]
  includeAll _ := rfl
  excludeAll _ := rfl
  featureIds _ _ hids := by
    rw [layout_texts hids]
    rfl
  comparison op hx hy := by
    rw [hx, hy]
    rfl
  spatial _ hx hy := by
    rw [hx, hy]
    rfl
  bbox _ _ _ hx hg := by
    rw [hx, hg]
    rfl
  distance op d units hx hy := by
    rw [hx, hy]
    rfl
  relate hx hy := by
    rw [hx, hy]
    rfl
  negation_of_pattern _ hx hy _ _ htext _ := by
    rw [hx, hy, htext]
    rfl
  isNull negated hx := by
    rw [hx]
    rfl
  like pattern ignoringCase negated hx := by
    rw [hx]
    rfl
  between negated hx hy hz := by
    rw [hx, hy, hz]
    rfl
  anyOf negated _ hx hys := by
    rw [hx, eq_of_forall₂_eq hys]
    rfl
  negation_of_test _ h := h
  not _ h := by
    rw [h.const]
    rfl
  group _ _ h := h.const
  conjunction_of_negation h := h
  and _ hp hq := by
    rw [hp, hq]
    rfl
  disjunction_of_conjunction h := h
  or _ hp hq := by
    rw [hp, hq]
    rfl

/-! ### Statements of the same tokens -/

/-- Whether a fault is a space in a pattern without quotes. -/
def SyntaxFault.isInPattern : SyntaxFault → Bool
  | .unexpected expected _ => expected == "a DE-9IM pattern without spaces"
  | _ => false

/-- Whether the reading of a part stops in a pattern without quotes. -/
def StatementPart.stopsInPattern : StatementPart → Bool
  | .whole _ => false
  | .broken _ fault => fault.isInPattern

/-- Whether no pattern in a statement is written without quotes: every one that is read is a token between quotes, and
the reading does not stop in one that is none. -/
structure QuotesPatterns (dialect : Dialect) (entry : EntryPoint) (lexemes : List Lexeme) : Prop where
  quoted : ∀ part ∈ Grammar.statementParts dialect lexemes entry, ∀ r ∈ part.reductions,
    r.production = .de9imPattern → ∃ l ∈ lexemes, Grammar.isQuotedPattern l.token = true ∧ r.tokens = [l.source]
  whole : ∀ part ∈ Grammar.statementParts dialect lexemes entry, part.stopsInPattern = false

instance (dialect : Dialect) (entry : EntryPoint) (lexemes : List Lexeme) :
    Decidable (QuotesPatterns dialect entry lexemes) :=
  decidable_of_iff ((∀ part ∈ Grammar.statementParts dialect lexemes entry, ∀ r ∈ part.reductions,
      r.production = .de9imPattern → ∃ l ∈ lexemes, Grammar.isQuotedPattern l.token = true ∧ r.tokens = [l.source]) ∧
    ∀ part ∈ Grammar.statementParts dialect lexemes entry, part.stopsInPattern = false)
    ⟨fun h => ⟨h.1, h.2⟩, fun h => ⟨h.quoted, h.whole⟩⟩

theorem QuotesPatterns.not_broken {entry : EntryPoint} {lexemes : List Lexeme}
    (h : QuotesPatterns dialect entry lexemes) {token : SourceToken} :
    ¬∃ done, .broken done (.inPattern token) ∈ Grammar.statementParts dialect lexemes entry := by
  rintro ⟨done, hmem⟩
  cases h.whole _ hmem

theorem error_of_map {said : Except Stop α} {g : α → β} {stop : Stop} (h : said.map g = .error stop) :
    said = .error stop := by
  cases said with
  | ok a => cases h
  | error stop' =>
    cases h
    rfl

/-- The same tree, or errors of the same kind. -/
inductive SameTreeOrFault : Except CompileFailure α → Except CompileFailure α → Prop
  | tree (a : α) : SameTreeOrFault (.ok a) (.ok a)
  | fault {e e' : CompileError} (h : e'.fault = e.fault) :
      SameTreeOrFault (.error (.error e)) (.error (.error e'))

theorem sameTreeOrFault_of_result {said said' : Except Stop α} {statement statement' : String}
    (h : (layoutPairing dialect kit).Result Eq said said') (hsaid : ∀ token, said ≠ .error (.fault (.inPattern token)))
    (hsaid' : ∀ token, said' ≠ .error (.fault (.inPattern token))) :
    SameTreeOrFault (said.mapError (Stop.inStatement statement)) (said'.mapError (Stop.inStatement statement')) := by
  cases h with
  | @value a b h =>
    subst h
    exact .tree a
  | stray h =>
    obtain ⟨token, rfl⟩ := h
    exact absurd rfl (hsaid' token)
  | stop h =>
    rcases h with ⟨token, rfl⟩ | ⟨stop', hstop, hsame⟩
    · exact absurd rfl (hsaid token)
    · obtain rfl := eq_error_of_stopOf hstop
      rcases hsame with ⟨token, rfl⟩ | hsame
      · exact absurd rfl (hsaid' token)
      · cases hsame with
        | fault h => exact .fault (h _ _)
        | finding h => exact .fault h

variable {compiler : Compiler} {statement statement' : String} {L L' : List Lexeme}

/-- **Layout does not matter.**  Statements of the same tokens come to the same tree or to the same fault, whatever
stands between the tokens, if no pattern is written without quotes. -/
theorem sameTreeOrFault_of_tokens (hscan : scan statement = .ok L) (hscan' : scan statement' = .ok L')
    (htokens : tokensOf L' = tokensOf L) :
    (QuotesPatterns compiler.dialect .filter L → QuotesPatterns compiler.dialect .filter L' →
      SameTreeOrFault (compiler.compileFilter statement).result (compiler.compileFilter statement').result) ∧
    (QuotesPatterns compiler.dialect .expression L → QuotesPatterns compiler.dialect .expression L' →
      SameTreeOrFault (compiler.compileExpression statement).result (compiler.compileExpression statement').result) ∧
    (QuotesPatterns compiler.dialect .list L → QuotesPatterns compiler.dialect .list L' →
      SameTreeOrFault (compiler.compileFilterList statement).result
        (compiler.compileFilterList statement').result) := by
  let u : Setting := compiler.setting
  have hu : ∀ r, u.permits r = true := fun _ => rfl
  have hinput : (layoutPairing compiler.dialect compiler.toolkit).input L L' := ⟨htokens, numeral_of_scan hscan⟩
  refine ⟨fun hquotes hquotes' => ?_, fun hquotes hquotes' => ?_, fun hquotes hquotes' => ?_⟩
  · have hresult := result_filterStatement (w := layoutPredicates compiler.dialect compiler.toolkit) hinput
    have hanswer : (compiler.compileFilter statement).result = _ := compileFilter_eq (u := u) hu hscan
    have hanswer' : (compiler.compileFilter statement').result = _ := compileFilter_eq (u := u) hu hscan'
    rw [hanswer, hanswer']
    exact sameTreeOrFault_of_result hresult (fun token h => hquotes.not_broken (broken_of_filter (u := u) (error_of_map h)))
      fun token h => hquotes'.not_broken (broken_of_filter (u := u) (error_of_map h))
  · have hresult := result_expressionStatement (w := layoutExpressions compiler.dialect compiler.toolkit) hinput
    have hanswer : (compiler.compileExpression statement).result = _ := compileExpression_eq (u := u) hu hscan
    have hanswer' : (compiler.compileExpression statement').result = _ := compileExpression_eq (u := u) hu hscan'
    rw [hanswer, hanswer']
    exact sameTreeOrFault_of_result hresult
      (fun token h => hquotes.not_broken (broken_of_expression (u := u) (error_of_map h)))
      fun token h => hquotes'.not_broken (broken_of_expression (u := u) (error_of_map h))
  · have hresult := result_listStatement (w := layoutPredicates compiler.dialect compiler.toolkit)
      (fun _ _ _ _ h => h) hinput
    have hanswer : (compiler.compileFilterList statement).result = _ := compileFilterList_eq (u := u) hu hscan
    have hanswer' : (compiler.compileFilterList statement').result = _ := compileFilterList_eq (u := u) hu hscan'
    rw [hanswer, hanswer']
    exact sameTreeOrFault_of_result (hresult.mono fun _ _ h => (eq_of_forall₂_eq h).symm)
      (fun token h => hquotes.not_broken (broken_of_list (u := u) h))
      fun token h => hquotes'.not_broken (broken_of_list (u := u) h)

theorem sameTreeOrFault_of_tokens_relate :
    ∃ L L', scan "RELATE(a, POINT(1 2), 'T*F**FFF*')" = .ok L ∧
      scan "RELATE ( a ,\n  POINT(1 2) , -- within\n 'T*F**FFF*')" = .ok L' ∧ tokensOf L' = tokensOf L ∧
      QuotesPatterns .ecql .filter L ∧ QuotesPatterns .ecql .filter L' ∧
      SameTreeOrFault ((⟨.ecql, ⟨.plain, CrsRegistry.wellKnown.resolver⟩⟩ : Compiler).compileFilter
        "RELATE(a, POINT(1 2), 'T*F**FFF*')").result
        ((⟨.ecql, ⟨.plain, CrsRegistry.wellKnown.resolver⟩⟩ : Compiler).compileFilter
        "RELATE ( a ,\n  POINT(1 2) , -- within\n 'T*F**FFF*')").result := by
  let L := (scan "RELATE(a, POINT(1 2), 'T*F**FFF*')").toOption.getD []
  let L' := (scan "RELATE ( a ,\n  POINT(1 2) , -- within\n 'T*F**FFF*')").toOption.getD []
  have hscan : scan "RELATE(a, POINT(1 2), 'T*F**FFF*')" = .ok L := by decide +kernel
  have hscan' : scan "RELATE ( a ,\n  POINT(1 2) , -- within\n 'T*F**FFF*')" = .ok L' := by decide +kernel
  have htokens : tokensOf L' = tokensOf L := by decide +kernel
  have hquotes : QuotesPatterns .ecql .filter L := by decide +kernel
  have hquotes' : QuotesPatterns .ecql .filter L' := by decide +kernel
  have hsame := @sameTreeOrFault_of_tokens ⟨.ecql, ⟨.plain, CrsRegistry.wellKnown.resolver⟩⟩ _ _ _ _ hscan hscan' htokens
  exact ⟨L, L', hscan, hscan', htokens, hquotes, hquotes', hsame.1 hquotes hquotes'⟩

end GeoFilter
