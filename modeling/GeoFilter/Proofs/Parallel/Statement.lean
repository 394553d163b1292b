import GeoFilter.Proofs.Comparison.Predicate
import GeoFilter.Proofs.Compilation
import GeoFilter.Proofs.Parallel.Predicate

/-!
# Statements side by side

Whole statements are related as soon as the filters or the expressions in them are, and what is said of a statement is
what a compiler answers.
-/

namespace GeoFilter

open Translation (read)

/-! ### Statements -/

/-- What a statement comes to, beside what another comes to. -/
inductive Pairing.Result (w : Pairing) (V : α → β → Prop) : Except Stop α → Except Stop β → Prop
  | value {a : α} {b : β} (h : V a b) : Result w V (.ok a) (.ok b)
  | stray {a : α} {stop : Stop} (h : w.strays stop) : Result w V (.ok a) (.error stop)
  | stop {stop : Stop} {said : Except Stop β} (h : w.halts stop (stopOf said)) : Result w V (.error stop) said

namespace Pairing

variable {w : Pairing} {V : α → β → Prop}

theorem Outcome.result {R : α → β → List Lexeme → List Lexeme → Prop} {said : Except Stop (α × List Lexeme)}
    {said' : Except Stop (β × List Lexeme)} (h : w.Outcome R said said')
    (hV : ∀ a b rest rest', R a b rest rest' → V a b) : w.Result V (said.map Prod.fst) (said'.map Prod.fst) := by
  cases h with
  | value h => exact .value (hV _ _ _ _ h)
  | stray h => exact .stray h
  | stop h =>
    refine .stop ?_
    cases said' with
    | ok x => exact h
    | error stop => exact h

theorem Result.mono {V' : α → β → Prop} {said : Except Stop α} {said' : Except Stop β} (h : w.Result V said said')
    (hV : ∀ a b, V a b → V' a b) : w.Result V' said said' := by
  cases h with
  | value h => exact .value (hV _ _ h)
  | stray h => exact .stray h
  | stop h => exact .stop h

theorem Result.of_stray {stop : Stop} (h : w.strays stop) (said : Except Stop α) : w.Result V said (.error stop) := by
  cases said with
  | ok a => exact .stray h
  | error stop' => exact .stop (w.halts_of_strays _ _ h)

theorem Result.cons {a : α} {b : β} {said : Except Stop (List α)} {said' : Except Stop (List β)} (hab : V a b)
    (h : w.Result (List.Forall₂ V) said said') :
    w.Result (List.Forall₂ V) (said.map (a :: ·)) (said'.map (b :: ·)) := by
  cases h with
  | value h => exact .value (.cons hab h)
  | stray h => exact .stray h
  | stop h =>
    refine .stop ?_
    cases said' with
    | ok bs => exact h
    | error stop => exact h

end Pairing

theorem spanning_toEnd {w : Pairing} {V : LexemePairs → α → β → LexemePairs → Prop} {body : Translation α}
    {body' : Translation β} (h : Spanning w V body body') :
    Spanning w (fun s a b _ => V s a b []) (Translation.toEnd body) (Translation.toEnd body') := by
  have hend : Spanning w (fun s _ _ _ => s = []) (read Grammar.statementEnd) (read Grammar.statementEnd) := by
    rintro (_ | ⟨l, ls⟩) ls' hls
    · have hnil := w.input_nil hls
      subst hnil
      exact .value rfl hls
    · obtain ⟨l', rest', rfl, _, hsource, _⟩ := w.input_cons hls
      exact .stop (w.halts_fault (.unexpected _ hsource))
  refine h.bind fun s a b mid hab => hend.bind fun s' _ _ t hnil => .pure ?_
  rintro _ _ rfl
  rw [← hnil]
  exact hab

theorem result_expressionStatement {w : ExpressionPairing} {ls ls' : List Lexeme} (hls : w.input ls ls') :
    w.Result (w.sum maxNesting) ((Translation.expressionStatement w.left ls).map Prod.fst)
      ((Translation.expressionStatement w.right ls').map Prod.fst) := by
  have hexpression := (parallel_expression (w := w) maxNesting).spanning fun _ _ _ _ h => h
  exact (spanning_toEnd hexpression ls ls' hls).result fun _ _ _ _ h => h

variable {w : PredicatePairing}

theorem result_filterStatement {ls ls' : List Lexeme} (hls : w.input ls ls') :
    w.Result (fun p p' => w.disjunction maxNesting (ls.zip ls') p p' [])
      ((Translation.filterStatement w.left ls).map Prod.fst) ((Translation.filterStatement w.right ls').map Prod.fst) :=
  (spanning_toEnd (spanning_filter maxNesting) ls ls' hls).result fun _ _ _ _ h => h

section List

variable {V : Predicate → Predicate → Prop} (hV : ∀ s p p' t, w.disjunction maxNesting s p p' t → V p p')

include hV

theorem result_filterList (fuel : Nat) {ls ls' : List Lexeme} (hls : w.input ls ls') :
    w.Result (List.Forall₂ V) (Translation.filterList w.left fuel ls) (Translation.filterList w.right fuel ls') := by
  induction fuel generalizing ls ls' with
  | zero => exact .value .nil
  | succ fuel ih =>
    have hfilter := spanning_filter (w := w) maxNesting ls ls' hls
    unfold Translation.filterList
    generalize Translation.filter w.left maxNesting ls = said,
      Translation.filter w.right maxNesting ls' = said' at hfilter
    cases hfilter with
    | stray h => exact .of_stray h _
    | stop h =>
      refine .stop ?_
      cases said' with
      | ok x => exact w.halts_of_none _ _ h
      | error stop => exact h
    | @value p p' rest rest' hspan hrest =>
      have hp := hV _ _ _ _ hspan
      rcases rest with _ | ⟨l, rest⟩
      · have hnil := w.input_nil hrest
        subst hnil
        exact .value (.cons hp .nil)
      · obtain ⟨l', rest', rfl, halike, hsource, hmore⟩ := w.input_cons hrest
        have hsign : l'.token = .sign .semicolon ↔ l.token = .sign .semicolon := by
          have hsame : (l'.token == .sign .semicolon) = (l.token == .sign .semicolon) :=
            Token.Alike.Respected.sign .semicolon halike
          rw [← beq_iff_eq, hsame, beq_iff_eq]
        have hempty : rest'.isEmpty = rest.isEmpty := by
          rw [Bool.eq_iff_iff, List.isEmpty_iff_length_eq_zero, List.isEmpty_iff_length_eq_zero,
            Pairing.input_length hmore]
        dsimp only
        by_cases hl : l.token = .sign .semicolon
        · rw [if_pos hl, if_pos (hsign.mpr hl), hempty]
          split
          · exact .value (.cons hp .nil)
          · exact (ih hmore).cons hp
        · rw [if_neg hl, if_neg (mt hsign.mp hl)]
          exact .stop (w.halts_fault (.unexpected _ hsource))

theorem result_listStatement {ls ls' : List Lexeme} (hls : w.input ls ls') :
    w.Result (List.Forall₂ V) (Translation.listStatement w.left ls) (Translation.listStatement w.right ls') := by
  unfold Translation.listStatement
  rw [Pairing.input_length hls]
  exact result_filterList hV _ hls

end List

/-! ### One statement with two toolkits -/

theorem SyntaxFault.Beside.eq {f f' : SyntaxFault} (h : f.Beside Eq f') : f' = f := by
  cases h with
  | unexpected _ h | tooDeep h => rw [h]
  | endReached => rfl

theorem eq_of_forall₂_eq {as as' : List α} (h : List.Forall₂ Eq as as') : as' = as := by
  rw [List.forall₂_eq_eq_eq] at h
  exact h.symm

theorem Finding.Beside.eq {f f' : Finding} (h : f.Beside Eq f') : f' = f := by
  cases h with
  | geometry _ h | srid h | pattern h => rw [h]
  | units h =>
    cases eq_of_forall₂_eq h
    rfl

/-- How translations of one statement may part: where the right one stops although the left one makes a value, and
what the right one may do where the left one stops. -/
structure Parting where
  strays : Stop → Prop
  halts : Stop → Option Stop → Prop
  halts_of_none : ∀ stop stop?, halts stop none → halts stop stop?
  halts_of_strays : ∀ stop stop', strays stop' → halts stop (some stop')
  halts_same : ∀ stop, halts stop (some stop)

theorem permits_all (dialect : Dialect) (kit : Toolkit) (r : Reduction) :
    (⟨dialect, kit, fun _ => true⟩ : Setting).permits r = true := rfl

def Parting.pairing (parting : Parting) (dialect : Dialect) (kit kit' : Toolkit) {L : List Lexeme} (hL : Numerals L) :
    Pairing where
  left := ⟨dialect, kit, fun _ => true⟩
  right := ⟨dialect, kit', fun _ => true⟩
  input ls ls' := ls' = ls ∧ ls <:+ L
  source := Eq
  strays := parting.strays
  halts := parting.halts
  dialect_eq := rfl (a := dialect)
  permits_left := permits_all dialect kit
  permits_right := permits_all dialect kit'
  input_nil h := h.1
  input_cons := by
    rintro l ls _ ⟨rfl, hsuffix⟩
    exact ⟨l, ls, rfl, .refl _, rfl, rfl, (List.suffix_cons _ _).trans hsuffix⟩
  numeral h hnumber := hL.source (h.2.subset List.mem_cons_self) hnumber
  source_signed := by
    rintro t _ u _ rfl rfl
    rfl
  halts_of_none := parting.halts_of_none
  halts_of_strays := parting.halts_of_strays
  halts_fault h := h.eq ▸ parting.halts_same _
  halts_finding h := h.eq ▸ parting.halts_same _

section Itself

variable {parting : Parting} {dialect : Dialect} {kit kit' : Toolkit} {L : List Lexeme} {hL : Numerals L}

theorem parallel_read_itself {p : Phrase α} (hp : p.Shortens) :
    Parallel (parting.pairing dialect kit kit' hL) (fun a a' => a' = a) (read p) (read p) := by
  rintro _ ls ⟨rfl, hsuffix⟩
  cases hread : Translation.read p ls with
  | ok x => exact .value rfl ⟨rfl, (hp ls _ _ (Translation.read_eq_ok hread)).trans hsuffix⟩
  | error stop => exact .stop (parting.halts_same stop)

theorem spanning_pattern_itself (hL : Numerals L) :
    Spanning (parting.pairing dialect kit kit' hL)
      (fun _ token token' _ => token = token' ∧ token'.text = token.text ∧
        Assembly.isDe9im token'.text = Assembly.isDe9im token.text)
      (read Grammar.de9imPattern) (read Grammar.de9imPattern) := by
  refine (parallel_read_itself shortens_de9imPattern).spanning ?_
  rintro _ token _ _ rfl
  exact ⟨rfl, rfl, rfl⟩

theorem text_itself (hL : Numerals L) {text text' : String}
    (h : (parting.pairing dialect kit kit' hL).Texts text text') : text' = text := by
  induction h with
  | taken h => exact congrArg SourceToken.text h.source.symm
  | joined _ h ih => rw [ih, congrArg SourceToken.text h.source.symm]

theorem texts_itself (hL : Numerals L) {texts texts' : List String}
    (h : List.Forall₂ (parting.pairing dialect kit kit' hL).Texts texts texts') : texts' = texts :=
  eq_of_forall₂_eq (h.imp fun _ _ htext => (text_itself hL htext).symm)

end Itself

/-! ### One statement with one toolkit -/

/-- Each translation by itself: nothing is asked of the one beside it. -/
def Parting.free : Parting where
  strays _ := False
  halts _ _ := True
  halts_of_none _ _ _ := trivial
  halts_of_strays _ _ _ := trivial
  halts_same _ := trivial

theorem spanning_pattern_free (dialect : Dialect) (resolver : CrsResolver) {L : List Lexeme} (hL : Numerals L) :
    Spanning (Parting.free.pairing dialect ⟨.plain, resolver⟩ ⟨.plain, resolver⟩ hL)
      (fun _ token token' _ => token = token' ∧ token'.text = token.text ∧
        Assembly.isDe9im token'.text = Assembly.isDe9im token.text)
      (read Grammar.de9imPattern) (read Grammar.de9imPattern) :=
  spanning_pattern_itself hL

theorem forall_of_forall₂ {P : α → Prop} {as : List α} {bs : List β} (h : List.Forall₂ (fun a _ => P a) as bs) :
    ∀ a ∈ as, P a :=
  ((List.forall₂_and_left as bs).mp (h.imp (S := fun a _ => P a ∧ True) fun _ _ hP => ⟨hP, trivial⟩)).1

theorem holds_of_result {P : α → Prop} {dialect : Dialect} {L : List Lexeme} {kit kit' : Toolkit} (hL : Numerals L)
    {a : α} {said : Except Stop β}
    (h : (Parting.free.pairing dialect kit kit' hL).Result (fun a _ => P a) (.ok a) said) : P a := by
  cases h with
  | value h => exact h
  | stray h => exact h.elim

/-! ### Answers -/

/-- The failure of a statement at which a translation stops. -/
def Stop.inStatement (statement : String) : Stop → CompileFailure
  | .fault f => .error ((f.toFinding (Compiler.endToken statement)).inStatement statement)
  | .finding f => .error (f.inStatement statement)
  | .refused r => .defect (.unsupportedProduction r.production)

theorem Reports.eq {statement : String} {Unpermitted : Reduction → Prop} {result : Except CompileFailure α}
    {said : Except Stop α} (h : Reports statement Unpermitted result said) (hnone : ∀ r, ¬Unpermitted r) :
    result = said.mapError (Stop.inStatement statement) := by
  cases h with
  | value h => exact h
  | fault h => exact h
  | finding h => exact h
  | refused h => exact absurd h (hnone _)

theorem exists_ok_of_isSome {result : Except ε α} (h : result.toOption.isSome = true) : ∃ a, result = .ok a := by
  cases result with
  | ok a => exact ⟨a, rfl⟩
  | error e => cases h

variable {u : Setting} (hu : ∀ r, u.permits r = true) {statement : String} {lexemes : List Lexeme}
  (hscan : scan statement = .ok lexemes)

include hu hscan

/-- A compiler answers what the translation says, if every reduction is permitted. -/
theorem compileFilter_eq : (u.compiler.compileFilter statement).result =
    ((Translation.filterStatement u lexemes).map Prod.fst).mapError (Stop.inStatement statement) :=
  (compileFilter_reports hscan).eq (not_unpermittedIn hu _)

theorem compileExpression_eq : (u.compiler.compileExpression statement).result =
    ((Translation.expressionStatement u lexemes).map Prod.fst).mapError (Stop.inStatement statement) :=
  (compileExpression_reports hscan).eq (not_unpermittedIn hu _)

theorem compileFilterList_eq : (u.compiler.compileFilterList statement).result =
    (Translation.listStatement u lexemes).mapError (Stop.inStatement statement) :=
  (compileFilterList_reports hscan).eq (not_unpermittedIn hu _)

end GeoFilter
