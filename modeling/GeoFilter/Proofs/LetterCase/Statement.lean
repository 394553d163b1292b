import GeoFilter.Proofs.LetterCase
import GeoFilter.Proofs.Parallel.Statement
import GeoFilter.Proofs.Tokenizer

/-!
# Statements in another letter case

The letters of keywords may be written in any case, and names are kept as they are written: what a compiler makes of two
statements that differ only in the case of letters is compared lexeme by lexeme.
-/

namespace GeoFilter

open Translation (read)

/-! ### Faults -/

/-- Faults of the same kind, whatever they tell of the statement. -/
inductive Fault.SameKind : Fault → Fault → Prop
  | unexpected (expected expected' found found' : String) :
      SameKind (.unexpected expected found) (.unexpected expected' found')
  | endReached (expected expected' : String) : SameKind (.endReached expected) (.endReached expected')
  | unscannable (message message' : String) : SameKind (.unscannable message) (.unscannable message')
  | invalidDe9im (pattern pattern' : String) : SameKind (.invalidDe9im pattern) (.invalidDe9im pattern')
  | unresolvedSrid (srid srid' : Int32) : SameKind (.unresolvedSrid srid) (.unresolvedSrid srid')
  | invalidSrid (srid srid' : String) : SameKind (.invalidSrid srid) (.invalidSrid srid')
  | degenerateGeometry (error error' : GeometryError) :
      SameKind (.degenerateGeometry error) (.degenerateGeometry error')
  | invalidNumber (number number' : String) : SameKind (.invalidNumber number) (.invalidNumber number')
  | invalidUnits (units units' : String) : SameKind (.invalidUnits units) (.invalidUnits units')
  | tooDeep (limit limit' : Nat) : SameKind (.tooDeep limit) (.tooDeep limit')

/-- Stops at faults of the same kind. -/
inductive Stop.SameKind : Stop → Stop → Prop
  | fault {f f' : SyntaxFault} (h : ∀ atEnd atEnd', (f.toFinding atEnd).fault.SameKind (f'.toFinding atEnd').fault) :
      SameKind (.fault f) (.fault f')
  | finding {f f' : Finding} (h : f.fault.SameKind f'.fault) : SameKind (.finding f) (.finding f')

variable {L L' : List Lexeme}

/-! ### The same words in another case -/

/-- The lexemes of a statement in another letter case, translated with one resolver. -/
def recasedPairing (dialect : Dialect) (resolver : CrsResolver) (L' : List Lexeme) (hL : Numerals L) : Pairing where
  left := ⟨dialect, ⟨.plain, resolver⟩, fun _ => true⟩
  right := ⟨dialect, ⟨.plain, resolver⟩, fun _ => true⟩
  input ls ls' := List.Forall₂ Lexeme.Recased ls ls' ∧ ls <:+ L ∧ ls.zip ls' <:+ L.zip L'
  source := SourceToken.Recased
  strays _ := False
  halts stop stop? := ∃ stop', stop? = some stop' ∧ stop.SameKind stop'
  dialect_eq := rfl
  permits_left _ := rfl
  permits_right _ := rfl
  input_nil h := List.forall₂_nil_left_iff.mp h.1
  input_cons := by
    rintro l ls _ ⟨hrecased, hsuffix, hpairs⟩
    obtain ⟨l', ls', hl, hls, rfl⟩ := List.forall₂_cons_left_iff.mp hrecased
    exact ⟨l', ls', rfl, hl.token, hl.source, hls, (List.suffix_cons l ls).trans hsuffix,
      (List.suffix_cons (l, l') _).trans hpairs⟩
  numeral h hnumber := hL.source (h.2.1.subset List.mem_cons_self) hnumber
  source_signed ht hu := ⟨ht.place, (SameLetters.refl _).append hu.text⟩
  halts_of_none := by
    rintro stop stop? ⟨_, h, _⟩
    cases h
  halts_of_strays _ _ := nofun
  halts_fault h := by
    refine ⟨_, rfl, .fault fun atEnd atEnd' => ?_⟩
    cases h with
    | unexpected => exact .unexpected _ _ _ _
    | endReached => exact .endReached _ _
    | tooDeep => exact .tooDeep _ _
  halts_finding h := by
    refine ⟨_, rfl, .finding ?_⟩
    cases h with
    | geometry => exact .degenerateGeometry _ _
    | srid => exact .invalidSrid _ _
    | pattern => exact .invalidDe9im _ _
    | units => exact .invalidUnits _ _

variable {dialect : Dialect} {resolver : CrsResolver}

theorem sameName_of_texts {hL : Numerals L} {name name' : String}
    (h : (recasedPairing dialect resolver L' hL).Texts name name') : SameName (L.zip L') name name' := by
  have hmem : ∀ {sort token token'}, (recasedPairing dialect resolver L' hL).Takes sort token token' →
      ∃ l l', (l, l') ∈ L.zip L' ∧ token = l.source ∧ token' = l'.source := by
    rintro sort token token' ⟨l, ls, l', ls', hinput, _, htoken, htoken'⟩
    exact ⟨l, l', hinput.2.2.subset List.mem_cons_self, htoken, htoken'⟩
  induction h with
  | taken h =>
    have hletters := SourceToken.Recased.text h.source
    obtain ⟨l, l', hpair, rfl, rfl⟩ := hmem h
    exact ⟨hletters, .lexeme hpair⟩
  | joined _ h ih =>
    have hletters := (ih.letters.append (.refl ":")).append (SourceToken.Recased.text h.source)
    obtain ⟨l, l', hpair, rfl, rfl⟩ := hmem h
    exact ⟨hletters, .joined ih.written hpair⟩

def recasedExpressions (dialect : Dialect) (resolver : CrsResolver) (L' : List Lexeme) (hL : Numerals L) :
    ExpressionPairing where
  toPairing := recasedPairing dialect resolver L' hL
  geometry := Eq
  factor _ := Expression.Recased (L.zip L')
  product _ := Expression.Recased (L.zip L')
  sum _ := Expression.Recased (L.zip L')
  unlocated := @unlocated_itself
  located {g srid token token'} _ _ := by
    unfold qualified
    dsimp only [recasedPairing]
    cases resolver srid with
    | ok crs => exact .value rfl
    | error e => exact .stop ⟨_, rfl, .finding (.unresolvedSrid _ _)⟩
  geometryLiteral _ hg := by
    rw [hg]
    exact .literal _
  literal _ _ := .literal _
  property _ _ hnames := .property (hnames.imp fun _ _ => sameName_of_texts)
  function hname hargs := .function (sameName_of_texts hname) (hargs.imp fun _ _ h => h.const)
  grouped h := h.const
  product_of_factor h := h
  sum_of_product h := h
  multiplied op hx hy := .arithmetic op hx hy
  added op hx hy := .arithmetic op hx hy

/-! ### Predicates where they are written -/

/-- Predicates that differ at most in the case of the letters of names and of patterns without quotes, from where they
are read on both sides to the lexemes behind them.  A pattern without quotes stands between a comma and the parenthesis
at the end of its test; in all other tests the patterns are the same. -/
inductive Predicate.RecasedFrom (u : Setting) (pairs : LexemePairs) :
    LexemePairs → Predicate → Predicate → LexemePairs → Prop
  | test {levels : Nat} {s t : LexemePairs} {p p' : Predicate}
    (hreads : Spanning.Reads (Translation.primary u levels none) (Translation.primary u levels none) s p p' t)
    (h : p.Recased pairs (fun _ => False) p') : RecasedFrom u pairs s p p' t
  | matching {levels : Nat} {s inner t : LexemePairs} {comma closing : Lexeme × Lexeme} {x x' y y' : Expression}
    {text text' : String}
    (hreads : Spanning.Reads (Translation.primary u levels none) (Translation.primary u levels none) s
      (matching .plain x y text) (matching .plain x' y' text') t)
    (hx : x.Recased pairs x') (hy : y.Recased pairs y') (hinner : comma :: inner <:+ pairs)
    (hcomma : comma.1.token = .sign .comma) (hspelled : SpelledBeside inner text text' (closing :: t))
    (hclosing : closing.1.token = .sign .rightParen) (htext : SameLetters text text') :
    RecasedFrom u pairs s (matching .plain x y text) (matching .plain x' y' text') t
  | not {l : Lexeme × Lexeme} {inner t : LexemePairs} {p p' : Predicate} (hl : l.1.token.isWord "NOT" = true)
    (h : RecasedFrom u pairs inner p p' t) : RecasedFrom u pairs (l :: inner) p.not p'.not t
  | group {opening closing : Lexeme × Lexeme} {sign : Sign} {inner t : LexemePairs} {p p' : Predicate}
    (hopening : Grammar.closingSign? u.dialect opening.1.token = some sign) (hclosing : closing.1.token = .sign sign)
    (h : RecasedFrom u pairs inner p p' (closing :: t)) : RecasedFrom u pairs (opening :: inner) p p' t
  | and {l : Lexeme × Lexeme} {s mid t : LexemePairs} {p p' q q' : Predicate} (hl : l.1.token.isWord "AND" = true)
    (hp : RecasedFrom u pairs s p p' (l :: mid)) (hq : RecasedFrom u pairs mid q q' t) :
    RecasedFrom u pairs s (p.flatAnd q) (p'.flatAnd q') t
  | or {l : Lexeme × Lexeme} {s mid t : LexemePairs} {p p' q q' : Predicate} (hl : l.1.token.isWord "OR" = true)
    (hp : RecasedFrom u pairs s p p' (l :: mid)) (hq : RecasedFrom u pairs mid q q' t) :
    RecasedFrom u pairs s (Predicate.flatOr [p, q]) (Predicate.flatOr [p', q']) t

/-- What is written for a pattern on both sides: the same, or what is spelled without quotes. -/
def SamePattern (L : List Lexeme) (s : LexemePairs) (text text' : String) (t : LexemePairs) : Prop :=
  text' = text ∨ SpelledIn L text ∧ SameLetters text text' ∧ SpelledBeside s text text' t

theorem recased_barePatternAt {hL : Numerals L} {start start' : SourceToken} (hstart : start.Recased start') :
    Spanning (recasedPairing dialect resolver L' hL)
      (fun s token token' t => token.Recased token' ∧ SamePattern L s token.text token'.text t)
      (read (barePatternAt start)) (read (barePatternAt start')) := by
  rintro ls ls' ⟨hls, hsuffix, hpairs⟩
  unfold Translation.read barePatternAt
  rcases barePattern_recased hls none with ⟨token, token', htoken, hleft, hright⟩ |
    ⟨text, text', rest, rest', hleft, hright, htext, hspelled, hrest, hbehind⟩
  · rw [hleft, hright]
    exact .stop ((recasedPairing dialect resolver L' hL).halts_fault (.unexpected _ htoken))
  · rw [hleft, hright]
    have hempty : text' = "" ↔ text = "" := by
      rw [← String.length_eq_zero_iff, htext.length_eq, String.length_eq_zero_iff]
    have hbare : SpelledIn L text := by
      rcases barePattern_cases none ls with ⟨token, herror⟩ | hok
      · cases hleft.symm.trans herror
      · cases hleft.symm.trans hok
        exact ⟨ls, hsuffix, rfl⟩
    have hinput : (recasedPairing dialect resolver L' hL).input rest rest' :=
      ⟨hrest, (barePattern_suffix hleft).trans hsuffix, hbehind.trans hpairs⟩
    dsimp only
    by_cases hnone : text = ""
    · rw [if_pos hnone, if_pos (hempty.mpr hnone)]
      exact (Parallel.unexpected (V := fun (_ _ : SourceToken) => False) _ _ _ hinput).mono fun _ _ _ _ => False.elim
    · rw [if_neg hnone, if_neg (mt hempty.mp hnone)]
      exact .value ⟨⟨hstart.place, htext⟩, .inr ⟨hbare, htext, hspelled⟩⟩ hinput

/-- Predicates in another letter case where they are written, if there are no identifiers in them. -/
def RecasedBut (u : Setting) (L L' : List Lexeme) (s : LexemePairs) (p p' : Predicate) (t : LexemePairs) : Prop :=
  p.hasIds = false → p.Recased (L.zip L') (SpelledIn L) p' ∧ p.RecasedFrom u (L.zip L') s p' t

namespace RecasedBut

variable {u : Setting} {s inner mid t : LexemePairs} {l opening closing : Lexeme × Lexeme} {p p' q q' : Predicate}

theorem flatAnd (hl : l.1.token.isWord "AND" = true) (hp : RecasedBut u L L' s p p' (l :: mid))
    (hq : RecasedBut u L L' mid q q' t) : RecasedBut u L L' s (p.flatAnd q) (p'.flatAnd q') t := by
  intro hids
  rw [Predicate.hasIds_flatAnd, Bool.or_eq_false_iff] at hids
  obtain ⟨hp, hpfrom⟩ := hp hids.1
  obtain ⟨hq, hqfrom⟩ := hq hids.2
  exact ⟨hp.flatAnd hq, .and hl hpfrom hqfrom⟩

theorem flatOr (hl : l.1.token.isWord "OR" = true) (hp : RecasedBut u L L' s p p' (l :: mid))
    (hq : RecasedBut u L L' mid q q' t) :
    RecasedBut u L L' s (Predicate.flatOr [p, q]) (Predicate.flatOr [p', q']) t := by
  intro hids
  rw [Predicate.hasIds_flatOr, List.any_cons, List.any_cons, List.any_nil, Bool.or_false, Bool.or_eq_false_iff] at hids
  obtain ⟨hp, hpfrom⟩ := hp hids.1
  obtain ⟨hq, hqfrom⟩ := hq hids.2
  exact ⟨.flatOr (.cons hp (.cons hq .nil)), .or hl hpfrom hqfrom⟩

theorem not (hl : l.1.token.isWord "NOT" = true) (hp : RecasedBut u L L' inner p p' t) :
    RecasedBut u L L' (l :: inner) (.not p) (.not p') t := by
  intro hids
  rw [Predicate.hasIds] at hids
  obtain ⟨hp, hpfrom⟩ := hp hids
  exact ⟨.not hp, .not hl hpfrom⟩

theorem group {sign : Sign} (hopening : Grammar.closingSign? u.dialect opening.1.token = some sign)
    (hclosing : closing.1.token = .sign sign) (hp : RecasedBut u L L' inner p p' (closing :: t)) :
    RecasedBut u L L' (opening :: inner) p p' t := by
  intro hids
  obtain ⟨hp, hpfrom⟩ := hp hids
  exact ⟨hp, .group hopening hclosing hpfrom⟩

end RecasedBut

def recasedPredicates (dialect : Dialect) (resolver : CrsResolver) (L' : List Lexeme) (hL : Numerals L) :
    PredicatePairing where
  toExpressionPairing := recasedExpressions dialect resolver L' hL
  test _ p p' := p.hasIds = false → ∀ unquoted, p.Recased (L.zip L') unquoted p'
  negation _ := RecasedBut ⟨dialect, ⟨.plain, resolver⟩, fun _ => true⟩ L L'
  conjunction _ := RecasedBut ⟨dialect, ⟨.plain, resolver⟩, fun _ => true⟩ L L'
  disjunction _ := RecasedBut ⟨dialect, ⟨.plain, resolver⟩, fun _ => true⟩ L L'
  written := SamePattern L
  pattern := by
    have hquoted : ∀ s token token' t,
        (recasedPairing dialect resolver L' hL).Takes Grammar.isQuotedPattern token token' →
        token.Recased token' ∧ SamePattern L s token.text token'.text t :=
      fun s token token' t h => ⟨h.source, .inl (h.text_eq fun _ => rfl)⟩
    refine (spanning_de9imPattern hquoted fun _ _ hstart => recased_barePatternAt hstart).mono ?_
    rintro s token token' t ⟨htoken, hwritten⟩
    exact ⟨htoken, hwritten, htoken.text.isDe9im⟩
  units h := by
    have htexts : List.Forall₂ SameLetters _ _ := List.forall₂_map_left_iff.mpr (List.forall₂_map_right_iff.mpr
      (h.imp fun _ _ htoken => SourceToken.Recased.text htoken))
    exact (SameLetters.intercalate htexts).units
  includeAll _ _ _ := .includeAll
  excludeAll _ _ _ := .excludeAll
  featureIds _ _ _ := nofun
  comparison op hx hy _ _ := .comparison op hx hy
  spatial _ hx hy := by
    rw [Translation.spatialRight_plain rfl, Translation.spatialRight_plain rfl]
    exact fun _ _ => .spatial _ hx hy
  bbox _ _ _ hx hg := by
    rw [hg]
    exact fun _ _ => .spatial _ hx (.literal _)
  distance op d units hx hy _ _ := .distance op d units hx hy
  relate hx hy _ _ := .relate hx hy
  isNull negated hx _ _ := .negatedWhen negated (.isNull hx)
  like pattern ignoringCase negated hx _ _ := .negatedWhen negated (.like pattern ignoringCase hx)
  between negated hx hy hz _ _ := .negatedWhen negated (.between hx hy hz)
  anyOf negated _ hx hys _ _ := .negatedWhen negated (.anyOf hx hys)
  negation_of_test hreads h hids := ⟨h hids _, .test hreads (h hids _)⟩
  negation_of_pattern := by
    rintro levels s x x' y y' comma inner text text' closing t hreads hx hy hstands hcomma htext hclosing _
    obtain ⟨ls, ls', hinput, hpairs⟩ := hstands
    rcases htext with rfl | ⟨hbare, hletters, hspelled⟩
    · exact ⟨.relatePattern hx hy (.inl rfl), .test hreads (.relatePattern hx hy (.inl rfl))⟩
    · exact ⟨.relatePattern hx hy (.inr ⟨hbare, hletters⟩),
        .matching hreads hx hy (hpairs ▸ hinput.2.2) hcomma hspelled hclosing hletters⟩
  not hl h := .not hl h.const
  group hopening hclosing h := .group hopening hclosing h.const
  conjunction_of_negation h := h
  and hl hp hq := hp.flatAnd hl hq
  disjunction_of_conjunction h := h
  or hl hp hq := hp.flatOr hl hq

/-! ### Answers -/

/-- Trees that differ in the case of letters at most, each as its statement has it, or errors of the same kind. -/
inductive RecasedAnswer (u : Setting) (L L' : List Lexeme) :
    Except CompileFailure Predicate → Except CompileFailure Predicate → Prop
  | tree {p p' : Predicate} (h : p.Recased (L.zip L') (SpelledIn L) p')
      (hwritten : p.RecasedFrom u (L.zip L') (L.zip L') p' []) : RecasedAnswer u L L' (.ok p) (.ok p')
  | fault {e e' : CompileError} (h : e.fault.SameKind e'.fault) :
      RecasedAnswer u L L' (.error (.error e)) (.error (.error e'))

/-- **Keywords are recognized in any letter case, and names are kept as they are written.**  Filters that differ only
in the case of the letters of words without quotes come to trees that differ only in the case of the letters of names
and of patterns without quotes, or they fail for the same kind of fault.  A name is what lexemes at the same places of
both statements have for a text; and a pattern differs only if it stands without quotes where its test is read. -/
theorem recasedAnswer_of_letters (dialect : Dialect) (resolver : CrsResolver) {statement statement' : String}
    {L L' : List Lexeme} (hscan : scan statement = .ok L) (hscan' : scan statement' = .ok L')
    (hletters : List.Forall₂ Lexeme.Recased L L') (hnames : ¬NamesFeatures dialect L) :
    RecasedAnswer (⟨dialect, ⟨.plain, resolver⟩⟩ : Compiler).setting L L'
      ((⟨dialect, ⟨.plain, resolver⟩⟩ : Compiler).compileFilter statement).result
      ((⟨dialect, ⟨.plain, resolver⟩⟩ : Compiler).compileFilter statement').result := by
  let u : Setting := ⟨dialect, ⟨.plain, resolver⟩, fun _ => true⟩
  have hids : ∀ p, ((⟨dialect, ⟨.plain, resolver⟩⟩ : Compiler).compileFilter statement).result = .ok p →
      p.hasIds = false := fun _ h => hasIds_of_compiled hscan hnames h
  have hresult := result_filterStatement (w := recasedPredicates dialect resolver L' (numeral_of_scan hscan))
    ⟨hletters, List.suffix_rfl, List.suffix_rfl⟩
  have hanswer : ((⟨dialect, ⟨.plain, resolver⟩⟩ : Compiler).compileFilter statement).result = _ :=
    compileFilter_eq (u := u) (fun _ => rfl) hscan
  have hanswer' : ((⟨dialect, ⟨.plain, resolver⟩⟩ : Compiler).compileFilter statement').result = _ :=
    compileFilter_eq (u := u) (fun _ => rfl) hscan'
  rw [hanswer] at hids
  rw [hanswer, hanswer']
  change (recasedPairing dialect resolver L' (numeral_of_scan hscan)).Result
    (fun p p' => RecasedBut u L L' (L.zip L') p p' []) ((Translation.filterStatement u L).map Prod.fst)
    ((Translation.filterStatement u L').map Prod.fst) at hresult
  generalize (Translation.filterStatement u L).map Prod.fst = said,
    (Translation.filterStatement u L').map Prod.fst = said' at hids hresult
  cases hresult with
  | value h =>
    obtain ⟨htree, hwritten⟩ := h (hids _ rfl)
    exact .tree htree hwritten
  | stray h => exact h.elim
  | stop h =>
    obtain ⟨stop', hstop, hsame⟩ := h
    obtain rfl := eq_error_of_stopOf hstop
    cases hsame with
    | fault h => exact .fault (h _ _)
    | finding h => exact .fault h

theorem recasedAnswer_of_letters_relate :
    ∃ L L', scan "Name like 'Ab%' and relate(Shape, POINT(1 2), t*f**fff*)" = .ok L ∧
      scan "NAME LIKE 'Ab%' AND RELATE(SHAPE, point(1 2), T*F**FFF*)" = .ok L' ∧ List.Forall₂ Lexeme.Recased L L' ∧
      ¬NamesFeatures .ecql L ∧ RecasedAnswer
        (⟨.ecql, ⟨.plain, CrsRegistry.wellKnown.resolver⟩⟩ : Compiler).setting L L'
        ((⟨.ecql, ⟨.plain, CrsRegistry.wellKnown.resolver⟩⟩ : Compiler).compileFilter
          "Name like 'Ab%' and relate(Shape, POINT(1 2), t*f**fff*)").result
        ((⟨.ecql, ⟨.plain, CrsRegistry.wellKnown.resolver⟩⟩ : Compiler).compileFilter
          "NAME LIKE 'Ab%' AND RELATE(SHAPE, point(1 2), T*F**FFF*)").result := by
  let L := (scan "Name like 'Ab%' and relate(Shape, POINT(1 2), t*f**fff*)").toOption.getD []
  let L' := (scan "NAME LIKE 'Ab%' AND RELATE(SHAPE, point(1 2), T*F**FFF*)").toOption.getD []
  have hscan : scan "Name like 'Ab%' and relate(Shape, POINT(1 2), t*f**fff*)" = .ok L := by decide +kernel
  have hscan' : scan "NAME LIKE 'Ab%' AND RELATE(SHAPE, point(1 2), T*F**FFF*)" = .ok L' := by decide +kernel
  have hletters : List.Forall₂ Lexeme.Recased L L' := by decide +kernel
  have hnames : ¬NamesFeatures .ecql L := by decide +kernel
  exact ⟨L, L', hscan, hscan', hletters, hnames,
    recasedAnswer_of_letters .ecql CrsRegistry.wellKnown.resolver hscan hscan' hletters hnames⟩

end GeoFilter
