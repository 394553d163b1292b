import GeoFilter.Proofs.Comparison.Statement
import GeoFilter.Proofs.Compilation
import GeoFilter.Proofs.Dialects.Literal
import GeoFilter.Proofs.Tokenizer

/-!
# Expressions in the two dialects

As an expression a statement comes to the same in both dialects, with one exception: a number of a reference
system behind a minus, if it does not fit in 32 bits, is named in full by the extended dialect, while the base
dialect names the minus alone.
-/

namespace GeoFilter

open Translation (complete read)

/-! ### The extended dialect names numbers as they are written -/

/-- Whether a token is a number of a reference system as it is written among some lexemes: a code, or a
number with its sign. -/
def WrittenSrid (L : List Lexeme) (token : SourceToken) : Prop :=
  (∃ l ∈ L, Grammar.isCode l.token = true ∧ token = l.source) ∨
    ∃ n, SignedIn L n ∧ token = Grammar.withSign n

/-- Whether a finding, if it is about a number of a reference system, names it as it is written. -/
def Finding.NamesSrid (L : List Lexeme) (f : Finding) : Prop :=
  f.fault.isInvalidSrid = true → ∃ token, WrittenSrid L token ∧ f = .invalidSrid token

theorem namesSrid_of_other {L : List Lexeme} {f : Finding} (h : f.fault.isInvalidSrid = false) :
    f.NamesSrid L := by
  intro hsrid
  rw [h] at hsrid
  cases hsrid

/-- The extended dialect beside itself: where it stops with a finding, that names a number as it is
written. -/
def namesWritten (L : List Lexeme) (kit : Toolkit) : Comparison where
  lexemes := L
  left := ⟨.ecql, kit, fun _ => true⟩
  right := ⟨.ecql, kit, fun _ => true⟩
  allows stop stop? := stop? = some stop ∧ ∀ f, stop = .finding f → f.NamesSrid L
  kit_eq := rfl
  permits _ := rfl
  allows_of_none stop stop? h := nomatch h.1
  allows_fault f := ⟨rfl, fun f' hf' => nomatch hf'⟩
  allows_finding f hf := ⟨rfl, fun f' hf' => by
    cases hf'
    exact namesSrid_of_other hf⟩
  allows_refused r stop? h := nomatch h

variable {L : List Lexeme} {kit : Toolkit}

theorem namesSrid_qualified {resolver : CrsResolver} {g : Geometry} {srid : Int32} {token : SourceToken}
    {f : Finding} (h : qualified resolver g srid token = .error f) : f.NamesSrid L := by
  unfold qualified at h
  split at h
  · cases h
  · cases h
    exact namesSrid_of_other rfl

theorem namesSrid_qualifiedByToken {resolver : CrsResolver} {g : Geometry} {token : SourceToken}
    {f : Finding} (htoken : WrittenSrid L token) (h : qualifiedByToken resolver g token = .error f) :
    f.NamesSrid L := by
  unfold qualifiedByToken at h
  split at h
  · exact namesSrid_qualified h
  · cases h
    exact fun _ => ⟨token, htoken, rfl⟩

theorem namesSrid_qualifiedByCode {resolver : CrsResolver} {g : Geometry} {code? : Option SourceToken}
    {f : Finding} (hcode : ∀ code ∈ code?, WrittenSrid L code)
    (h : qualifiedByCode resolver g code? = .error f) : f.NamesSrid L := by
  cases code? with
  | none => cases h
  | some code =>
    rw [qualifiedByCode] at h
    split at h
    · exact namesSrid_qualified h
    · cases h
      exact fun _ => ⟨code, hcode code rfl, rfl⟩

theorem except_bind_error {a : Except ε α} {f : α → Except ε β} {e : ε} (h : (a >>= f) = .error e) :
    a = .error e ∨ ∃ x, a = .ok x ∧ f x = .error e := by
  cases a with
  | error e' => exact .inl (congrArg Except.error (Except.error.inj h))
  | ok x => exact .inr ⟨x, rfl, h⟩

theorem namesSrid_boundOf {token : SourceToken} {f : Finding} (h : boundOf token = .error f) :
    f.NamesSrid L := by
  rw [orFinding_error h]
  exact namesSrid_of_other rfl

theorem namesSrid_rectangleOf {resolver : CrsResolver} {west east north south : SourceToken}
    {code? : Option SourceToken} {f : Finding} (hcode : ∀ code ∈ code?, WrittenSrid L code)
    (h : rectangleOf resolver west east north south code? = .error f) : f.NamesSrid L := by
  unfold rectangleOf at h
  rcases except_bind_error h with h | ⟨minX, _, h⟩
  · exact namesSrid_boundOf h
  rcases except_bind_error h with h | ⟨maxX, _, h⟩
  · exact namesSrid_boundOf h
  rcases except_bind_error h with h | ⟨maxY, _, h⟩
  · exact namesSrid_boundOf h
  rcases except_bind_error h with h | ⟨minY, _, h⟩
  · exact namesSrid_boundOf h
  · exact namesSrid_qualifiedByCode hcode h

theorem writtenSrid_of_referenceSystem {input rest : List Lexeme} {code : List SourceToken}
    (hinput : input <:+ L) (h : (Grammar.referenceSystem? input).outcome = .ok (code, rest)) :
    ∀ token ∈ code.head?, WrittenSrid L token := by
  obtain ⟨comma?, mid, hcomma, hcode⟩ := Phrase.outcome_bind_eq_ok h
  have hmid := (Phrase.Shortens.accept _ input comma? mid hcomma).trans hinput
  cases comma? with
  | none =>
    cases hcode
    intro token htoken
    cases htoken
  | some comma =>
    obtain ⟨token, _, hexpect, hpure⟩ := Phrase.outcome_bind_eq_ok hcode
    cases hpure
    obtain ⟨l, rfl, hsort, rfl⟩ := Phrase.expectIf_eq_ok hexpect
    intro token htoken
    cases htoken
    exact .inl ⟨l, hmid.subset List.mem_cons_self, hsort, rfl⟩

theorem namesWritten_value {value : Except Finding α} (h : ∀ f, value = .error f → f.NamesSrid L) :
    (namesWritten L kit).AllowsValue value value := by
  refine .refl fun f hf => ⟨rfl, fun f' hf' => ?_⟩
  cases hf'
  exact h f hf

theorem namesWritten_literalsAlike : (namesWritten L kit).LiteralsAlike := by
  refine ⟨fun levels => ?_, ?_⟩
  · refine .read_bind (.next _) fun keyword => .read_bind (.require _) fun _ => ?_
    refine .read_bind_of shortens_signed (fun _ _ _ => signedIn_of_signed) fun n hn => ?_
    refine .read_bind (.require _) fun _ => (alike_geometryLiteral levels).bind fun g => ?_
    exact .complete_of (namesWritten_value fun f hf => namesSrid_qualifiedByToken (.inr ⟨n, hn, rfl⟩) hf)
  · have hbound : Alike (namesWritten L kit) (Translation.envelopeBound (namesWritten L kit).left)
        (Translation.envelopeBound (namesWritten L kit).right) :=
      .read_bind shortens_signed fun n => .pure _
    refine .read_bind (.next _) fun keyword => .read_bind (.require _) fun _ => ?_
    refine hbound.bind fun west => .read_bind (.require _) fun _ => ?_
    refine hbound.bind fun east => .read_bind (.require _) fun _ => ?_
    refine hbound.bind fun north => .read_bind (.require _) fun _ => hbound.bind fun south => ?_
    refine .read_bind_of shortens_referenceSystem (fun _ _ _ => writtenSrid_of_referenceSystem)
      fun code hcode => .read_bind (.require _) fun _ => ?_
    exact .complete_of (namesWritten_value fun f hf => namesSrid_rectangleOf hcode hf)

/-! ### Statements -/

theorem namesSrid_expressionStatement {f : Finding}
    (h : Translation.expressionStatement ⟨.ecql, kit, fun _ => true⟩ L = .error (.finding f)) :
    f.NamesSrid L := by
  have hliterals : (namesWritten L kit).LiteralsAlike := namesWritten_literalsAlike
  have halike := alike_expressionStatement hliterals L List.suffix_rfl
  change Related _ (Translation.expressionStatement ⟨.ecql, kit, fun _ => true⟩ L) _ at halike
  rw [h] at halike
  cases halike with
  | stop hstop => exact hstop.2 f rfl

/-- What the expression of a statement comes to in the base dialect, against the extended one. -/
inductive Differs (L : List Lexeme) : Stop → Option Stop → Prop
  | fault (f : SyntaxFault) : Differs L (.fault f) (some (.fault f))
  | finding {f f' : Finding} (h : f.Matches f') : Differs L (.finding f) (some (.finding f'))
  | minus {minus number : Lexeme} {stop? : Option Stop} (hat : MinusAt L minus number)
      (hnames : NamesNumber minus number stop?) : Differs L (.finding (.invalidSrid minus.source)) stop?

def acrossDialects (L : List Lexeme) (kit : Toolkit) : Comparison where
  lexemes := L
  left := ⟨.cql, kit, fun _ => true⟩
  right := ⟨.ecql, kit, fun _ => true⟩
  allows := Differs L
  kit_eq := rfl
  permits _ := rfl
  allows_of_none stop stop? h := by
    cases h with
    | minus hat hnames =>
      refine .minus hat (.inr ?_)
      rcases hnames with hstop | hleast
      · cases hstop
      · exact hleast
  allows_fault f := .fault f
  allows_finding f _ := .finding (.refl f)
  allows_refused r stop? h := nomatch h

theorem acrossDialects_across (hnumerals : Numerals L) : (acrossDialects L kit).AcrossDialects where
  left := rfl
  right := rfl
  numerals := hnumerals
  allows_matching _ _ h := .finding h
  allows_minus _ _ _ hat hnames := .minus hat hnames

/-- No finding about a number of a reference system that names it as it is written is one about a minus of
the same statement. -/
theorem not_matches_minus {statement : String} (hscan : scan statement = .ok L) {minus : Lexeme}
    (hmem : minus ∈ L) (hminus : minus.token = .sign .minus) {f : Finding} (hnames : f.NamesSrid L) :
    ¬(Finding.invalidSrid minus.source).Matches f := by
  rintro ⟨hfault, hplace, _⟩
  have hsrid : f.fault.isInvalidSrid = true := by
    rw [← hfault]
    rfl
  obtain ⟨token, hwritten, rfl⟩ := hnames hsrid
  have htext : minus.token.text = token.text := Fault.invalidSrid.inj hfault
  change minus.place = token.place at hplace
  rcases hwritten with ⟨l, hl, hcode, rfl⟩ | ⟨n, hn, rfl⟩
  · have hsame := eq_of_place_eq hscan hmem hl hplace
    rw [← hsame, hminus] at hcode
    cases hcode
  · cases hn with
    | plain hl hnumber =>
      have hsame := eq_of_place_eq hscan hmem hl hplace
      rw [← hsame, hminus] at hnumber
      cases hnumber
    | @negative minus' number hpair _ hnumber =>
      -- The text of a number is never empty.
      have hne := (Numerals.source (numeral_of_scan hscan) (hpair.subset (by simp)) hnumber).ne_nil
      rw [hminus] at htext
      have htext' : ("-" : String).toList = ("-" ++ number.source.text).toList := congrArg String.toList htext
      rw [Numeral.toList_minus] at htext'
      exact hne (List.cons.inj htext').2.symm

/-! ### Answers -/

/-- Whether two compilations come to the same tree, or fail with the same kind of error at the same place. -/
def SameAnswer (r r' : Except CompileFailure α) : Prop :=
  (∃ x, r = .ok x ∧ r' = .ok x) ∨
    ∃ e e' : CompileError, r = .error (.error e) ∧ r' = .error (.error e') ∧
      e.toFinding.Matches e'.toFinding

def errorKind? : Except CompileFailure α → Option Fault
  | .error (.error e) => some e.fault
  | _ => none

theorem SameAnswer.errorKind_eq {r r' : Except CompileFailure α} (h : SameAnswer r r') :
    errorKind? r = errorKind? r' := by
  rcases h with ⟨x, rfl, rfl⟩ | ⟨e, e', rfl, rfl, hmatches⟩
  · rfl
  · exact congrArg some hmatches.fault

/-- Whether a compilation fails with a minus of the statement as the number of a reference system. -/
def NamesMinus (statement : String) (r : Except CompileFailure α) : Prop :=
  ∃ lexemes minus, scan statement = .ok lexemes ∧ minus ∈ lexemes ∧ minus.token = .sign .minus ∧
    r = .error (.error ((Finding.invalidSrid minus.source).inStatement statement))

/-- What the two dialects answer where the base dialect names a minus alone: behind the minus stands a number
that does not fit in 32 bits, and the extended dialect names the two together, unless they are the least
number of 32 bits. -/
def LosesNumber (statement : String) (base extended : Except CompileFailure α) : Prop :=
  ∃ lexemes minus number, scan statement = .ok lexemes ∧ MinusAt lexemes minus number ∧
    base = .error (.error ((Finding.invalidSrid minus.source).inStatement statement)) ∧
    (extended = .error (.error
        ((Finding.invalidSrid (Grammar.signedToken minus.source number.source)).inStatement statement)) ∨
      Decimal.readInt? number.token.text = some 2147483648)

theorem inStatement_inj {f f' : Finding} {statement : String}
    (h : (Except.error (.error (f.inStatement statement)) : Except CompileFailure α) =
      .error (.error (f'.inStatement statement))) : f = f' :=
  congrArg CompileError.toFinding (CompileFailure.error.inj (Except.error.inj h))

theorem sameAnswer_of_matches {statement : String} {f f' : Finding} (h : f.Matches f') :
    SameAnswer (.error (.error (f.inStatement statement)) : Except CompileFailure α)
      (.error (.error (f'.inStatement statement))) :=
  .inr ⟨_, _, rfl, rfl, h⟩

theorem toFinding_isInvalidSrid (fault : SyntaxFault) (atEnd : SourceToken) :
    (fault.toFinding atEnd).fault.isInvalidSrid = false := by
  cases fault <;> rfl

theorem isInvalidSrid_of_unscannable {statement : String} {f : Finding} (hscan : scan statement = .error f) :
    f.fault.isInvalidSrid = false := by
  unfold scan at hscan
  split at hscan
  · cases hscan
  · cases hscan
    rfl

theorem not_namesMinus_of_matches {statement : String} (hscan : scan statement = .ok L) {f f' : Finding}
    (h : f.Matches f') (hnames : f'.NamesSrid L) :
    ¬NamesMinus statement (.error (.error (f.inStatement statement)) : Except CompileFailure α) := by
  rintro ⟨lexemes, minus, hscan', hmem, hminus, heq⟩
  cases hscan.symm.trans hscan'
  rw [inStatement_inj heq] at h
  exact not_matches_minus hscan hmem hminus hnames h

section

variable {statement : String} {base extended : Except CompileFailure Expression}
  {said : Except Stop Expression} {read read' : Except Stop (Expression × List Lexeme)}
  {Unpermitted Unpermitted' : Reduction → Prop}

theorem namesSrid_of_reports (hnone : ∀ red, ¬Unpermitted red)
    (h : Reports statement Unpermitted base said) (hnames : ∀ f, said = .error (.finding f) → f.NamesSrid L)
    {e : CompileError} (he : base = .error (.error e)) : e.toFinding.NamesSrid L := by
  cases h with
  | value h =>
    rw [h] at he
    cases he
  | fault h =>
    rw [h] at he
    cases he
    exact namesSrid_of_other (toFinding_isInvalidSrid _ _)
  | finding h =>
    rw [h] at he
    cases he
    exact hnames _ rfl
  | @refused red h => exact absurd h (hnone red)

theorem namesSrid_of_map (hnames : ∀ f, read = .error (.finding f) → f.NamesSrid L) (f : Finding)
    (h : read.map Prod.fst = .error (.finding f)) : f.NamesSrid L := by
  cases read with
  | ok x => cases h
  | error stop =>
    cases h
    exact hnames f rfl

theorem not_sameAnswer_minus (hscan : scan statement = .ok L) {minus : Lexeme} (hmem : minus ∈ L)
    (hminus : minus.token = .sign .minus)
    (hbase : base = .error (.error ((Finding.invalidSrid minus.source).inStatement statement)))
    (hnames : ∀ e, extended = .error (.error e) → e.toFinding.NamesSrid L) : ¬SameAnswer base extended := by
  rintro (⟨x, hx, _⟩ | ⟨e, e', he, he', hmatches⟩)
  · rw [hbase] at hx
    cases hx
  · rw [hbase] at he
    cases he
    exact not_matches_minus hscan hmem hminus (hnames e' he') hmatches

theorem sameAnswer_or_losesNumber (hscan : scan statement = .ok L)
    (hrelated : Related (acrossDialects L kit) read read')
    (hnames : ∀ f, read' = .error (.finding f) → f.NamesSrid L)
    (hbase : Reports statement Unpermitted base (read.map Prod.fst))
    (hextended : Reports statement Unpermitted' extended (read'.map Prod.fst))
    (hnone' : ∀ red, ¬Unpermitted' red) :
    (SameAnswer base extended ∧ ¬NamesMinus statement base) ∨
      (¬SameAnswer base extended ∧ LosesNumber statement base extended) := by
  cases hrelated with
  | value =>
    cases hbase with
    | value hbase => cases hextended with
      | value hextended =>
        refine .inl ⟨.inl ⟨_, hbase, hextended⟩, ?_⟩
        rintro ⟨_, _, _, _, _, herror⟩
        rw [hbase] at herror
        cases herror
  | stop hstop =>
    generalize hstop? : stopOf read' = stop? at hstop
    cases hstop with
    | fault fault =>
      rw [eq_error_of_stopOf hstop?] at hextended
      cases hbase with
      | fault hbase => cases hextended with
        | fault hextended =>
          rw [hbase, hextended]
          exact .inl ⟨sameAnswer_of_matches (.refl _), not_namesMinus_of_matches hscan (.refl _)
            (namesSrid_of_other (toFinding_isInvalidSrid _ _))⟩
    | finding hmatches =>
      have hread := eq_error_of_stopOf hstop?
      rw [hread] at hextended
      cases hbase with
      | finding hbase => cases hextended with
        | finding hextended =>
          rw [hbase, hextended]
          exact .inl ⟨sameAnswer_of_matches hmatches,
            not_namesMinus_of_matches hscan hmatches (hnames _ hread)⟩
    | @minus minus number _ hat hloses =>
      cases hbase with
      | finding hbase =>
        have hmem : minus ∈ L := hat.pair.subset (by simp)
        have hdiffer : ¬SameAnswer base extended := not_sameAnswer_minus hscan hmem hat.isMinus hbase
          fun _ he => namesSrid_of_reports hnone' hextended (namesSrid_of_map hnames) he
        refine .inr ⟨hdiffer, L, minus, number, hscan, hat, hbase, ?_⟩
        rcases hloses with hnamed | hleast
        · rw [eq_error_of_stopOf (hstop?.trans hnamed)] at hextended
          cases hextended with
          | finding hextended => exact .inl hextended
        · exact .inr hleast

end

theorem LosesNumber.namesMinus {statement : String} {base extended : Except CompileFailure α}
    (h : LosesNumber statement base extended) : NamesMinus statement base := by
  obtain ⟨lexemes, minus, number, hscan, hat, hbase, _⟩ := h
  exact ⟨lexemes, minus, hscan, hat.pair.subset (by simp), hat.isMinus, hbase⟩

/-- **An expression comes to the same in both dialects, exactly if the base dialect does not name a minus
alone.**  For every statement, factory and resolver the two dialects answer the same tree or the same kind of
error at the same place, unless the base dialect refuses a minus as the number of a reference system; then
it loses a number that does not fit in 32 bits.  The extended dialect names every number that it refuses as
it is written. -/
theorem expression_across_dialects (kit : Toolkit) (statement : String) :
    (SameAnswer ((⟨.cql, kit⟩ : Compiler).compileExpression statement).result
        ((⟨.ecql, kit⟩ : Compiler).compileExpression statement).result ↔
      ¬NamesMinus statement ((⟨.cql, kit⟩ : Compiler).compileExpression statement).result) ∧
    (NamesMinus statement ((⟨.cql, kit⟩ : Compiler).compileExpression statement).result →
      LosesNumber statement ((⟨.cql, kit⟩ : Compiler).compileExpression statement).result
        ((⟨.ecql, kit⟩ : Compiler).compileExpression statement).result) ∧
    ∀ e text, ((⟨.ecql, kit⟩ : Compiler).compileExpression statement).result = .error (.error e) →
      e.fault = .invalidSrid text →
      ∃ lexemes token, scan statement = .ok lexemes ∧ WrittenSrid lexemes token ∧
        e.toFinding = .invalidSrid token := by
  cases hscan : scan statement with
  | error f =>
    have hresult : ∀ dialect, ((⟨dialect, kit⟩ : Compiler).compileExpression statement).result =
        .error (.error (f.inStatement statement)) :=
      fun dialect => single_of_error (compile_unscannable _ _ _ hscan)
    have hnone : ¬NamesMinus statement
        ((⟨.cql, kit⟩ : Compiler).compileExpression statement).result := by
      rintro ⟨lexemes, minus, hscan', _⟩
      cases hscan.symm.trans hscan'
    refine ⟨iff_of_true ?_ hnone, fun h => absurd h hnone, fun e text he hfault => ?_⟩
    · rw [hresult, hresult]
      exact sameAnswer_of_matches (.refl f)
    · rw [hresult] at he
      cases he
      have hother : f.fault.isInvalidSrid = false := isInvalidSrid_of_unscannable hscan
      rw [show f.fault = .invalidSrid text from hfault] at hother
      cases hother
  | ok L =>
    have hbase := compileExpression_reports (u := ⟨.cql, kit, fun _ => true⟩) hscan
    have hextended := compileExpression_reports (u := ⟨.ecql, kit, fun _ => true⟩) hscan
    have hrelated := alike_expressionStatement
      (acrossDialects_across (numeral_of_scan hscan) : (acrossDialects L kit).AcrossDialects).literalsAlike
      L List.suffix_rfl
    have hnames : ∀ f, Translation.expressionStatement ⟨.ecql, kit, fun _ => true⟩ L =
        .error (.finding f) → f.NamesSrid L := fun f => namesSrid_expressionStatement
    have hnone' := not_unpermittedIn (u := ⟨.ecql, kit, fun _ => true⟩) (fun _ => rfl)
      (Grammar.statementParts .ecql L .expression)
    have hanswers := sameAnswer_or_losesNumber hscan hrelated hnames hbase hextended hnone'
    refine ⟨?_, ?_, ?_⟩
    · rcases hanswers with ⟨hsame, hnot⟩ | ⟨hdiffer, hloses⟩
      · exact iff_of_true hsame hnot
      · exact iff_of_false hdiffer fun hnot => hnot hloses.namesMinus
    · rcases hanswers with ⟨_, hnot⟩ | ⟨_, hloses⟩
      · exact fun h => absurd h hnot
      · exact fun _ => hloses
    · intro e text he hfault
      obtain ⟨token, hwritten, htoken⟩ :=
        namesSrid_of_reports hnone' hextended (namesSrid_of_map hnames) he (by rw [hfault]; rfl)
      exact ⟨L, token, rfl, hwritten, htoken⟩

theorem expression_across_dialects_minus :
    ¬SameAnswer ((⟨.cql, ⟨.plain, CrsRegistry.wellKnown.resolver⟩⟩ : Compiler).compileExpression
        "SRID=-1.5;POINT(1 2)").result
      ((⟨.ecql, ⟨.plain, CrsRegistry.wellKnown.resolver⟩⟩ : Compiler).compileExpression
        "SRID=-1.5;POINT(1 2)").result := by
  intro hsame
  have hbase : errorKind? ((⟨.cql, ⟨.plain, CrsRegistry.wellKnown.resolver⟩⟩ : Compiler).compileExpression
      "SRID=-1.5;POINT(1 2)").result = some (.invalidSrid "-") := by decide +kernel
  have hextended : errorKind? ((⟨.ecql, ⟨.plain, CrsRegistry.wellKnown.resolver⟩⟩ : Compiler).compileExpression
      "SRID=-1.5;POINT(1 2)").result = some (.invalidSrid "-1.5") := by decide +kernel
  rw [hsame.errorKind_eq, hextended] at hbase
  exact absurd hbase (by decide)

end GeoFilter
