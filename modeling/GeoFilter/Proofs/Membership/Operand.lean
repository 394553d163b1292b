import GeoFilter.Proofs.Membership

/-!
# Names that start a filter

A word can start a filter without being the name of an attribute: NOT, a predicate of one word, a truth value, or the
start of a geometry.  With an equals sign and a candidate behind it, none of these makes a filter.
-/

namespace GeoFilter

open Translation (read bind_of_ok bind_eq_ok read_eq_ok)

variable {u : Setting} {levels : Nat} {p : Predicate} {l : Lexeme} {input rest : List Lexeme}

/-! ### Names that cannot stand in front of an equality -/

/-- A sign that stands behind the first word of an attribute in front of an equality. -/
def Sign.IsBehindWord (s : Sign) : Prop := s = .period ∨ s = .colon ∨ s = .equal

theorem Sign.IsBehindWord.not_endsOperand {s : Sign} (hs : s.IsBehindWord) : (Token.sign s).endsOperand = false := by
  rcases hs with rfl | rfl | rfl <;> rfl

theorem Sign.IsBehindWord.operand_ne_ok {s : Sign} (hs : s.IsBehindWord) (hl : l.token = .sign s) (x : Expression)
    (rest : List Lexeme) : Translation.operand u levels (l :: input) ≠ .ok (x, rest) := by
  obtain ⟨_, place⟩ := l
  subst hl
  intro h
  unfold Translation.operand at h
  cases hdialect : u.dialect with
  | cql =>
    rw [hdialect] at h
    obtain ⟨first, mid, hfirst, _⟩ := bind_eq_ok h
    cases hfirst
  | ecql =>
    rw [hdialect] at h
    dsimp only at h
    rw [Translation.expression_eq] at h
    obtain ⟨product, mid, hproduct, _⟩ := bind_eq_ok h
    obtain ⟨factor, mid', hfactor, _⟩ := bind_eq_ok hproduct
    rcases hs with rfl | rfl | rfl <;> cases hfactor

theorem Sign.IsBehindWord.negation_ne_ok {s : Sign} (hs : s.IsBehindWord) (hl : l.token = .sign s) (p : Predicate)
    (rest : List Lexeme) : Translation.negation u levels (l :: input) ≠ .ok (p, rest) := by
  obtain ⟨_, place⟩ := l
  subst hl
  intro h
  have hclosing : Grammar.closingSign? u.dialect (.sign s) = none := by
    rcases hs with rfl | rfl | rfl <;> cases u.dialect <;> rfl
  rw [Translation.negation_eq] at h
  obtain ⟨not?, mid, hnot, h⟩ := bind_eq_ok h
  cases hnot
  obtain ⟨token?, mid, htoken, h⟩ := bind_eq_ok h
  cases htoken
  simp only [List.head?_cons, Option.map_some, hclosing] at h
  obtain ⟨called, mid, hcalled, h⟩ := bind_eq_ok h
  cases hcalled
  obtain ⟨x, mid, hx, _⟩ := bind_eq_ok (show Translation.valueTest u levels _ = _ from h)
  exact hs.operand_ne_ok rfl x mid hx

/-- A word that is not NOT and has such a sign behind it starts a simple predicate. -/
theorem Sign.IsBehindWord.negation_word {s : Sign} (hs : s.IsBehindWord) {word : Lexeme} (hl : l.token = .sign s)
    {text : String} {quote : Option Char} (hword : word.token = .word text quote)
    (hnot : word.token.isWord "NOT" = false) :
    Translation.negation u levels (word :: l :: input) =
      Translation.simplePredicate u levels word.token.keyword? false (word :: l :: input) := by
  have hclosing : Grammar.closingSign? u.dialect word.token = none := by
    rw [hword]
    cases u.dialect <;> rfl
  have hcalled : read Grammar.parenFollows (word :: l :: input) = .ok (false, word :: l :: input) := by
    obtain ⟨_, place⟩ := l
    subst hl
    rcases hs with rfl | rfl | rfl <;> rfl
  rw [Translation.negation_eq]
  refine (bind_of_ok (read_acceptIf_of_neg (by rw [hnot]; decide) _)).trans ?_
  show Translation.primary u levels _ (word :: l :: input) = _
  refine (bind_of_ok (a := some word.token) rfl).trans ?_
  dsimp only
  rw [hclosing]
  exact bind_of_ok hcalled

theorem Sign.IsBehindWord.not_negated {s : Sign} (hs : s.IsBehindWord) (hl : l.token = .sign s) {word : Lexeme}
    (h : Translation.negation u levels (word :: l :: input) = .ok (p, rest)) : word.token.isWord "NOT" = false := by
  by_contra hnot
  rw [negation_not (eq_true_of_ne_false hnot)] at h
  obtain ⟨inner, mid, hinner, _⟩ := bind_eq_ok h
  cases levels with
  | zero => cases hinner
  | succ levels => exact hs.negation_ne_ok hl inner mid hinner

/-- A predicate of one word would end in front of such a sign, where no predicate ends. -/
theorem Sign.IsBehindWord.not_whole {s : Sign} (hs : s.IsBehindWord) (hl : l.token = .sign s) {word : Lexeme}
    {keyword? : Option Keyword} (hends : Ends Token.endsOperand rest)
    (h : Translation.simplePredicate u levels keyword? false (word :: l :: input) = .ok (p, rest)) :
    keyword? ≠ some .INCLUDE ∧ keyword? ≠ some .EXCLUDE := by
  have hrest : rest ≠ l :: input := by
    rintro rfl
    cases hs.not_endsOperand.symm.trans (hl ▸ hends l rfl)
  constructor
  all_goals
    rintro rfl
    obtain ⟨token, _, hnext, hdone⟩ := bind_eq_ok h
    cases hnext
    exact hrest (Translation.complete_eq_ok hdone).2.2

/-! ### First operands -/

theorem factor_word (inner? : Option (Translation Expression)) (text : String) (quote : Option Char) (place : Place)
    (input : List Lexeme) :
    Translation.factor u levels inner? (⟨.word text quote, place⟩ :: input) =
      Translation.wordFactor u levels inner? (Token.word text quote).keyword? (⟨.word text quote, place⟩ :: input) := by
  have hpeek : read Phrase.peek (⟨.word text quote, place⟩ :: input) =
      .ok (some (.word text quote), ⟨.word text quote, place⟩ :: input) := rfl
  unfold Translation.factor
  rw [bind_of_ok hpeek]

theorem factor_of_expression {x : Expression} (h : Translation.expression u levels input = .ok (x, rest)) :
    ∃ factor mid, Translation.factor u levels (Translation.deeper u levels) input = .ok (factor, mid) := by
  rw [Translation.expression_eq] at h
  obtain ⟨product, mid, hproduct, _⟩ := bind_eq_ok h
  obtain ⟨factor, mid', hfactor, _⟩ := bind_eq_ok hproduct
  exact ⟨factor, mid', hfactor⟩

/-- An expression ends behind an operand with a sign behind it that is no operator. -/
theorem expression_of_factor_before {factor : Expression} {s : Sign}
    (hs : s = .period ∨ s = .colon ∨ s = .semicolon) (hl : l.token = .sign s)
    (hfactor : Translation.factor u levels (Translation.deeper u levels) input = .ok (factor, l :: rest)) :
    Translation.expression u levels input = .ok (factor, l :: rest) := by
  obtain ⟨_, place⟩ := l
  subst hl
  rw [Translation.expression_eq]
  have hproduct : Translation.leftGrouped u (Grammar.acceptOperator (.star, .mul) (.slash, .div))
      (Translation.factor u levels (Translation.deeper u levels)) input = .ok (factor, ⟨.sign s, place⟩ :: rest) := by
    refine (bind_of_ok hfactor).trans ?_
    rcases hs with rfl | rfl | rfl <;> rfl
  refine (bind_of_ok hproduct).trans ?_
  rcases hs with rfl | rfl | rfl <;> rfl

theorem factor_of_signed {n : Option SourceToken × SourceToken} {mid : List Lexeme} {factor : Expression}
    (hsigned : read Grammar.signed input = .ok (n, mid)) {inner? : Option (Translation Expression)}
    (h : Translation.factor u levels inner? input = .ok (factor, rest)) : rest = mid := by
  have hliteral : ∀ y end', (Translation.signedLiteral u >>= fun v => Pure.pure (Expression.literal (.number v)) :
      Translation Expression) input = .ok (y, end') → end' = mid := by
    intro y end' hy
    obtain ⟨v, _, hv, hy⟩ := bind_eq_ok hy
    cases hy
    obtain ⟨n', _, hsigned', hcompleted⟩ := bind_eq_ok hv
    cases hsigned.symm.trans hsigned'
    obtain ⟨w, _, hw, hsign⟩ := bind_eq_ok hcompleted
    rw [(Translation.sign_eq_ok hsign).1]
    exact (Translation.complete_eq_ok hw).2.2
  rcases input with _ | ⟨⟨token, place⟩, input⟩
  · cases hsigned
  · have hpeek : read Phrase.peek (⟨token, place⟩ :: input) = .ok (some token, ⟨token, place⟩ :: input) := rfl
    unfold Translation.factor at h
    rw [bind_of_ok hpeek] at h
    cases token with
    | number text long => exact hliteral _ _ h
    | sign s => cases s <;> first | exact hliteral _ _ h | cases hsigned
    | _ => cases hsigned

theorem valueTest_truth_ne_ok (hu : u.IsPlain) (hecql : u.dialect = .ecql) {text : String} {b : Bool} {place : Place}
    (htruth : (Token.word text none).truth? = some b) {s : Sign} (hs : s = .period ∨ s = .colon)
    (hl : l.token = .sign s) (p : Predicate) (rest : List Lexeme) :
    Translation.valueTest u levels (⟨.word text none, place⟩ :: l :: input) ≠ .ok (p, rest) := by
  intro h
  obtain ⟨x, mid, hx, h⟩ := bind_eq_ok h
  have hoperand : Translation.expression u levels (⟨.word text none, place⟩ :: l :: input) =
      .ok (.literal (.boolean b), l :: input) :=
    expression_of_factor_before (hs.imp_right .inl) hl
      ((factor_word _ _ _ _ _).trans (wordFactor_of_truth hu htruth levels place))
  unfold Translation.operand at hx
  rw [hecql] at hx
  cases hoperand.symm.trans hx
  obtain ⟨_, place'⟩ := l
  subst hl
  obtain ⟨token?, mid, htoken, h⟩ := bind_eq_ok h
  cases htoken
  rcases hs with rfl | rfl <;> cases h

/-- Behind SRID and an equals sign there has to be a number with a semicolon behind it, which starts no expression. -/
theorem valueTest_srid_ne_ok (hecql : u.dialect = .ecql) {text : String} {place place' : Place}
    (hsrid : (Token.word text none).keyword? = some .SRID) {x : Expression} {mid : List Lexeme}
    (hx : Translation.expression u levels input = .ok (x, mid))
    (hmid : ∀ m ∈ mid.head?, m.token ≠ .sign .semicolon) (p : Predicate) (rest : List Lexeme) :
    Translation.valueTest u levels (⟨.word text none, place⟩ :: ⟨.sign .equal, place'⟩ :: input) ≠ .ok (p, rest) := by
  intro h
  obtain ⟨y, _, hy, _⟩ := bind_eq_ok h
  unfold Translation.operand at hy
  rw [hecql] at hy
  obtain ⟨factor, after, hfactor⟩ := factor_of_expression hy
  have hliteral : Translation.ofGeometry (Translation.sridLiteral u levels)
      (⟨.word text none, place⟩ :: ⟨.sign .equal, place'⟩ :: input) = .ok (factor, after) := by
    rw [factor_word, hsrid] at hfactor
    exact hfactor
  obtain ⟨g, _, hg, _⟩ := bind_eq_ok hliteral
  obtain ⟨keyword, _, hnext, hg⟩ := bind_eq_ok hg
  cases hnext
  obtain ⟨_, _, hequal, hg⟩ := bind_eq_ok hg
  cases hequal
  rw [hecql] at hg
  obtain ⟨n, _, hsigned, hg⟩ := bind_eq_ok hg
  obtain ⟨_, behind, hsemicolon, _⟩ := bind_eq_ok hg
  obtain ⟨place'', rfl⟩ := Phrase.require_eq_ok (read_eq_ok hsemicolon)
  -- as an expression, the number would end before the semicolon
  obtain ⟨number, end', hnumber⟩ := factor_of_expression hx
  obtain rfl := factor_of_signed hsigned hnumber
  cases (expression_of_factor_before (.inr (.inr rfl)) rfl hnumber).symm.trans hx
  exact hmid _ rfl rfl

/-! ### Names in front of equalities -/

theorem negation_of_filter (h : Translation.filter u levels input = .ok (p, [])) :
    ∃ q behind, Translation.negation u levels input = .ok (q, behind) ∧ Ends Token.endsOperand behind := by
  rw [Translation.filter_eq] at h
  obtain ⟨q, behind, hq, h⟩ := bind_eq_ok h
  obtain ⟨tail, mid, htail, h⟩ := bind_eq_ok h
  cases h
  exact ⟨q, behind, hq, ends_of_filterTail htail⟩

theorem AttributeName.exists_behindWord {more : List NamePart} {r : List Token}
    (htokens : tokensOf input = more.flatMap NamePart.tokens ++ .sign .equal :: r) :
    ∃ l rest s, input = l :: rest ∧ l.token = .sign s ∧ Sign.IsBehindWord s ∧
      (more ≠ [] → s = .period ∨ s = .colon) := by
  rcases more with _ | ⟨part, more⟩
  · obtain ⟨place, rest, rfl, _⟩ := tokensOf_eq_cons htokens
    exact ⟨_, rest, .equal, rfl, rfl, .inr (.inr rfl), fun h => absurd rfl h⟩
  · cases part with
    | point text quote =>
      obtain ⟨place, rest, rfl, _⟩ := tokensOf_eq_cons htokens
      exact ⟨_, rest, .period, rfl, rfl, .inl rfl, fun _ => .inl rfl⟩
    | colon text quote =>
      obtain ⟨place, rest, rfl, _⟩ := tokensOf_eq_cons htokens
      exact ⟨_, rest, .colon, rfl, rfl, .inr (.inl rfl), fun _ => .inr rfl⟩

theorem AttributeName.stands_of_filter {compiler : Compiler} (hplain : compiler.toolkit.factory = .plain)
    {name : AttributeName} {candidate : compiler.WrittenExpression} {r : List Token} (hr : ClosesDisjunct r)
    (htokens : tokensOf input = name.equals candidate ++ r)
    (h : Translation.filter compiler.setting maxNesting input = .ok (p, [])) : name.Stands compiler.dialect := by
  obtain ⟨text, quote, more⟩ := name
  have hnamed : tokensOf input =
      .word text quote :: (more.flatMap NamePart.tokens ++ .sign .equal :: (candidate.tokens ++ r)) := by
    rw [htokens, equals, tokens, List.append_assoc, List.cons_append, List.cons_append]
    rfl
  obtain ⟨place, mid, rfl, hmid⟩ := tokensOf_eq_cons hnamed
  obtain ⟨l, rest, s, rfl, hl, hs, hmore⟩ := exists_behindWord hmid
  obtain ⟨q, behind, hq, hends⟩ := negation_of_filter h
  have hnot : (Token.word text quote).isWord "NOT" = false := hs.not_negated hl hq
  have hsimple : Translation.simplePredicate compiler.setting maxNesting (Token.word text quote).keyword? false
      (⟨.word text quote, place⟩ :: l :: rest) = .ok (q, behind) := (hs.negation_word hl rfl hnot).symm.trans hq
  have hwhole := hs.not_whole hl hends hsimple
  rw [simplePredicate_uncalled hwhole.1 hwhole.2] at hsimple
  refine ⟨hnot, hwhole, fun hecql htruth => ?_, fun hecql hsrid => ?_⟩
  · by_contra hne
    obtain ⟨b, hb⟩ := Option.ne_none_iff_exists'.mp htruth
    obtain rfl : quote = none := quote_of_truth hb
    exact valueTest_truth_ne_ok (Compiler.isPlain_setting hplain) hecql hb (hmore hne) hl q behind hsimple
  · rintro rfl
    have hquote : quote = none := by
      cases quote with
      | none => rfl
      | some => cases hsrid
    subst hquote
    obtain ⟨place', rest', hcons, hrest⟩ := tokensOf_eq_cons hmid
    cases hcons
    obtain ⟨mid, hread, hmid⟩ := candidate.yields rest r hrest hr.closesOperand
    refine valueTest_srid_ne_ok hecql hsrid hread (fun m hm hsemicolon => ?_) q behind hsimple
    have hhead : r.head? = some (.sign .semicolon) := by
      rw [← hmid, tokensOf, List.head?_map, hm, Option.map_some, hsemicolon]
    cases hr _ hhead

end GeoFilter
