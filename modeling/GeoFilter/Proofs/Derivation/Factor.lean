import GeoFilter.Proofs.Derivation.Operand

/-!
# Reading operands around expressions

Function calls and expressions in parentheses are read with what reads the expressions one level deeper.  The
first token of an operand says which kind it is, except that a word starts a call or an attribute by what
follows it.
-/

namespace GeoFilter

open Translation (bind_of_ok bind_eq_ok read_of_ok read_eq_ok complete_eq_ok complete_of_permits)

/-! ### Expressions one level deeper -/

/-- The signs that may follow an expression in a larger one. -/
def closers : List Sign := [.comma, .rightParen]

/-- What reads the expressions one level deeper, if there is a level left. -/
inductive ReadsInner : Option (Translation Expression) → Nonterminal Expression → Prop where
  | deepest : ReadsInner none nothing
  | deeper {c : Translation Expression} {E : Nonterminal Expression} (h : Reads c E closers) :
    ReadsInner (some c) E

variable {u : Setting} {input rest : List Lexeme} {r : List Token} {E : Nonterminal Expression}
  {c : Translation Expression} {inner? : Option (Translation Expression)}

theorem ReadsInner.nested (h : ReadsInner inner? E) (opener : SourceToken) :
    Reads (Translation.nested inner? opener) E closers := by
  cases h with
  | deepest =>
    refine ⟨fun t => t.elim, fun _ hread => ?_, fun {_ t _} => t.elim⟩
    cases read_eq_ok hread
  | deeper h => exact h

/-! ### Arguments -/

theorem here_of_tokens {token : Token} (h : tokensOf input = token :: r) (expected : String) :
    ∃ source, (Phrase.here expected input).outcome = .ok (source, input) := by
  obtain ⟨place, input, rfl, _⟩ := tokensOf_eq_cons h
  exact ⟨_, rfl⟩

theorem here_eq_ok {expected : String} {token : SourceToken}
    (h : (Phrase.here expected input).outcome = .ok (token, rest)) : rest = input := by
  cases input <;> cases h
  rfl

theorem reads_argument (hu : u.IsPlain) (h : ReadsInner inner? E) :
    Reads (Translation.argument u inner?) E closers where
  opens := (h.nested ⟨"", .start⟩).opens
  sound hinput hread := by
    obtain ⟨token, mid, hhere, hread⟩ := bind_eq_ok hread
    obtain ⟨x, mid', hnested, hcomplete⟩ := bind_eq_ok hread
    obtain ⟨_, hvalue, rfl⟩ := complete_eq_ok hcomplete
    obtain rfl := here_eq_ok (read_eq_ok hhere)
    cases hvalue
    exact (h.nested token).sound hinput hnested
  complete {input t r} hinput htokens hr := by
    obtain ⟨token, r', ht, _⟩ := (h.nested ⟨"", .start⟩).opens t
    have hhead : tokensOf input = token :: (r' ++ r) := by
      rw [htokens, ht]
      rfl
    obtain ⟨source, hhere⟩ := here_of_tokens hhead "an expression"
    obtain ⟨rest, hnested, hrest⟩ := (h.nested source).complete hinput htokens hr
    refine ⟨rest, ?_, hrest⟩
    rw [Translation.argument, bind_of_ok (read_of_ok hhere), bind_of_ok hnested]
    exact complete_of_permits (hu.permits _) _ _

def afterComma (E : Nonterminal Expression) : Nonterminal Expression :=
  ⟨E.Tree, fun e => .sign .comma :: E.tokens e, E.value⟩

theorem reads_afterComma (h : Reads c E closers) :
    ReadsNext (Phrase.accept .comma) (fun _ => c) (afterComma E) [.comma] [.rightParen] where
  starts e := ⟨.comma, List.mem_cons_self, E.tokens e, rfl⟩
  rest_of_none hseparator := by
    rcases Phrase.acceptIf_eq_ok hseparator with ⟨_, _, _, hsome⟩ | ⟨hrest, _⟩
    · cases hsome
    · exact hrest
  none_of_followed hfollowed := hfollowed.accept_none (by decide)
  sound hinput hseparator hitem := by
    rcases Phrase.acceptIf_eq_ok hseparator with ⟨⟨token, place⟩, rfl, hcomma, _⟩ | ⟨_, hnone⟩
    · cases beq_iff_eq.mp hcomma
      obtain ⟨t, ht, hvalue⟩ := h.sound hinput.tail hitem
      exact ⟨t, congrArg (Token.sign .comma :: ·) ht, hvalue⟩
    · cases hnone
  complete hinput htokens hr := by
    obtain ⟨place, mid, rfl, hmid⟩ := tokensOf_eq_cons htokens
    obtain ⟨rest, hitem, hrest⟩ := h.complete hinput.tail hmid hr
    exact ⟨_, mid, rest, accept_sign .comma place mid, hitem, hrest⟩

theorem commaSeparated_sound (h : Reads c E closers) {x : Expression} {xs : List Expression}
    (hinput : WithoutGeometry (tokensOf input))
    (hread : Translation.commaSeparated c input = .ok ((x, xs), rest)) :
    ∃ t ts, tokensOf input = commaTokens E.tokens (t :: ts) ++ tokensOf rest ∧ E.value t = x ∧
      ts.map E.value = xs := by
  obtain ⟨x', mid, hfirst, hread⟩ := bind_eq_ok hread
  obtain ⟨xs', mid', hothers, hpure⟩ := bind_eq_ok hread
  cases hpure
  obtain ⟨t, ht, hvalue⟩ := h.sound hinput hfirst
  obtain ⟨(ts : List E.Tree), hts, hvalues⟩ :=
    (reads_afterComma h).repeatAfter_sound (ht ▸ hinput).append hothers
  refine ⟨t, ts, ?_, hvalue, hvalues⟩
  rw [ht, hts, commaTokens, List.append_assoc]
  rfl

theorem commaSeparated_complete (h : Reads c E closers) {t : E.Tree} {ts : List E.Tree}
    (hinput : WithoutGeometry (tokensOf input))
    (htokens : tokensOf input = commaTokens E.tokens (t :: ts) ++ r) (hr : Followed [.rightParen] r) :
    ∃ rest, Translation.commaSeparated c input = .ok ((E.value t, ts.map E.value), rest) ∧
      tokensOf rest = r := by
  have hafter := reads_afterComma h
  rw [commaTokens, List.append_assoc] at htokens
  obtain ⟨mid, hfirst, hmid⟩ := h.complete hinput htokens (hafter.starts.followed ts hr)
  have hplain : WithoutGeometry (tokensOf mid) := hinput.rest htokens hmid
  obtain ⟨rest, hothers, hrest⟩ := hafter.repeatAfter_complete hplain hmid hr
  refine ⟨rest, ?_, hrest⟩
  rw [Translation.commaSeparated, bind_of_ok hfirst, bind_of_ok hothers]
  rfl

/-! ### Function calls -/

theorem functionCall_sound (hu : u.IsPlain) (h : ReadsInner inner? E) {text : String} {quote : Option Char}
    {place : Place} {x : Expression} (hinput : WithoutGeometry (tokensOf input))
    (hread : Translation.functionCall u inner? (⟨.word text quote, place⟩ :: input) = .ok (x, rest)) :
    ∃ es, tokensOf input = .sign .leftParen :: (commaTokens E.tokens es ++ [.sign .rightParen]) ++ tokensOf rest ∧
      x = .function text (es.map E.value) := by
  obtain ⟨name, mid, hname, hbody⟩ := bind_eq_ok hread
  cases read_eq_ok hname
  obtain ⟨_, mid₁, hopen, hnamed⟩ := bind_eq_ok hbody
  obtain ⟨place', rfl⟩ := Phrase.require_eq_ok (read_eq_ok hopen)
  obtain ⟨_, mid₂, hcomplete, hopened⟩ := bind_eq_ok hnamed
  obtain ⟨_, _, rfl⟩ := complete_eq_ok hcomplete
  obtain ⟨closer?, mid₃, hclose, hrest⟩ := bind_eq_ok hopened
  rcases Phrase.acceptIf_eq_ok (read_eq_ok hclose) with ⟨⟨token, place''⟩, rfl, hsort, rfl⟩ | ⟨rfl, rfl⟩
  · cases beq_iff_eq.mp hsort
    obtain ⟨_, hvalue, rfl⟩ := complete_eq_ok hrest
    cases hvalue
    refine ⟨[], rfl, ?_⟩
    rw [hu.factory]
    rfl
  · obtain ⟨⟨x', xs⟩, mid₄, harguments, hclosing⟩ := bind_eq_ok hrest
    obtain ⟨_, mid₅, hclosed, hfunction⟩ := bind_eq_ok hclosing
    obtain ⟨place'', rfl⟩ := Phrase.require_eq_ok (read_eq_ok hclosed)
    obtain ⟨_, hvalue, rfl⟩ := complete_eq_ok hfunction
    cases hvalue
    obtain ⟨t, ts, htokens, rfl, rfl⟩ := commaSeparated_sound (reads_argument hu h) hinput.tail harguments
    refine ⟨t :: ts, ?_, ?_⟩
    · have hclosed := htokens.trans (List.append_assoc _ [Token.sign .rightParen] _).symm
      exact congrArg (Token.sign .leftParen :: ·) hclosed
    · rw [hu.factory]
      rfl

theorem accept_of_tokens {sign : Sign} {token : Token} (h : tokensOf input = token :: r)
    (hne : token ≠ .sign sign) : (Phrase.accept sign input).outcome = .ok (none, input) := by
  refine Phrase.accept_of_ne fun place rest hinput => hne ?_
  subst hinput
  exact (List.cons.inj h).1.symm

theorem functionCall_complete (hu : u.IsPlain) (h : ReadsInner inner? E) (text : String)
    (quote : Option Char) (place : Place) {es : List E.Tree} (hinput : WithoutGeometry (tokensOf input))
    (htokens : tokensOf input = .sign .leftParen :: (commaTokens E.tokens es ++ [.sign .rightParen]) ++ r) :
    ∃ rest, Translation.functionCall u inner? (⟨.word text quote, place⟩ :: input) =
      .ok (.function text (es.map E.value), rest) ∧ tokensOf rest = r := by
  obtain ⟨place', mid, rfl, hmid⟩ := tokensOf_eq_cons htokens
  have hname : (Phrase.next "a function name"
      (⟨.word text quote, place⟩ :: ⟨.sign .leftParen, place'⟩ :: mid)).outcome =
      .ok (⟨text, place⟩, ⟨.sign .leftParen, place'⟩ :: mid) := rfl
  unfold Translation.functionCall
  rw [bind_of_ok (read_of_ok hname), bind_of_ok (read_of_ok (require_sign _ _ _)),
    bind_of_ok (complete_of_permits (hu.permits _) _ _)]
  change tokensOf mid = commaTokens E.tokens es ++ [.sign .rightParen] ++ r at hmid
  rw [List.append_assoc] at hmid
  cases es with
  | nil =>
    obtain ⟨place'', rest, rfl, hrest⟩ := tokensOf_eq_cons hmid
    refine ⟨rest, ?_, hrest⟩
    rw [bind_of_ok (read_of_ok (accept_sign _ _ _))]
    dsimp only
    rw [complete_of_permits (hu.permits _), hu.factory]
    rfl
  | cons t ts =>
    have hargument := reads_argument hu h
    obtain ⟨token, r', ht, hne⟩ := hargument.opens t
    have hhead : tokensOf mid = token :: (r' ++ (ts.flatMap fun e => .sign .comma :: E.tokens e) ++
        ([.sign .rightParen] ++ r)) := by
      rw [hmid, commaTokens, ht]
      rfl
    obtain ⟨mid', harguments, hmid'⟩ :=
      commaSeparated_complete hargument hinput.tail hmid (followed_cons List.mem_cons_self r)
    obtain ⟨place'', rest, rfl, hrest⟩ := tokensOf_eq_cons hmid'
    refine ⟨rest, ?_, hrest⟩
    rw [bind_of_ok (read_of_ok (accept_of_tokens hhead hne))]
    dsimp only
    rw [bind_of_ok harguments]
    dsimp only
    rw [bind_of_ok (read_of_ok (require_sign _ _ _)), complete_of_permits (hu.permits _), hu.factory]
    rfl

/-! ### Words -/

theorem quote_of_truth {text : String} {quote : Option Char} {value : Bool}
    (h : (Token.word text quote).truth? = some value) : quote = none := by
  cases quote with
  | none => rfl
  | some q => cases h

theorem wordFactor_of_truth (hu : u.IsPlain) {text : String} {value : Bool}
    (h : (Token.word text none).truth? = some value) (levels : Nat) (place : Place) :
    Translation.wordFactor u levels inner? (Token.word text none).keyword? (⟨.word text none, place⟩ :: input) =
      .ok (.literal (.boolean value), input) := by
  have hnext : (Phrase.next "an expression" (⟨.word text none, place⟩ :: input)).outcome =
      .ok (⟨text, place⟩, input) := rfl
  have hcalled : ∃ called, (Grammar.parenFollows (⟨.word text none, place⟩ :: input)).outcome =
      .ok (called, ⟨.word text none, place⟩ :: input) := ⟨_, rfl⟩
  obtain ⟨called, hcalled⟩ := hcalled
  unfold Translation.wordFactor
  rw [bind_of_ok (read_of_ok hcalled)]
  unfold Token.truth? at h
  split at h
  case h_1 hkeyword =>
    cases h
    have hsame : Text.sameIgnoringAsciiCase text "true" = true := Keyword.same_true_of_ofText hkeyword
    rw [hkeyword]
    dsimp only
    rw [bind_of_ok (read_of_ok hnext), complete_of_permits (hu.permits _), hsame]
  case h_2 hkeyword =>
    cases h
    have hsame : Text.sameIgnoringAsciiCase text "true" = false := Keyword.not_same_true_of_ofText hkeyword
    rw [hkeyword]
    dsimp only
    rw [bind_of_ok (read_of_ok hnext), complete_of_permits (hu.permits _), hsame]
  case h_3 => cases h

def opensParen (input : List Lexeme) : Bool :=
  input.head?.map Lexeme.token == some (.sign .leftParen)

theorem wordFactor_of_name {text : String} {quote : Option Char}
    (hfree : (Token.word text quote).truth? = none) (hplain : (Token.word text quote).startsGeometry = false)
    (levels : Nat) (place : Place) :
    Translation.wordFactor u levels inner? (Token.word text quote).keyword?
        (⟨.word text quote, place⟩ :: input) =
      if opensParen input then Translation.functionCall u inner? (⟨.word text quote, place⟩ :: input)
      else Translation.propertyName u (⟨.word text quote, place⟩ :: input) := by
  have hcalled : (Grammar.parenFollows (⟨.word text quote, place⟩ :: input)).outcome =
      .ok (opensParen input, ⟨.word text quote, place⟩ :: input) := rfl
  unfold Translation.wordFactor
  rw [bind_of_ok (read_of_ok hcalled)]
  rcases hkeyword : (Token.word text quote).keyword? with _ | keyword
  · exact apply_ite (fun c : Translation Expression => c _) _ _ _
  · rw [Token.truth?, hkeyword] at hfree
    rw [Token.startsGeometry, hkeyword] at hplain
    cases keyword with
    | TRUE => cases hfree
    | FALSE => cases hfree
    | SRID => cases hplain
    | ENVELOPE => cases hplain
    | shape shape => cases hplain
    | _ => exact apply_ite (fun c : Translation Expression => c _) _ _ _

theorem wordFactor_sound (hu : u.IsPlain) (h : ReadsInner inner? E) {levels : Nat} {text : String}
    {quote : Option Char} {place : Place} {x : Expression}
    (hinput : WithoutGeometry (tokensOf (⟨.word text quote, place⟩ :: input)))
    (hread : Translation.wordFactor u levels inner? (Token.word text quote).keyword?
      (⟨.word text quote, place⟩ :: input) = .ok (x, rest)) :
    ∃ t : Factor E.Tree,
      tokensOf (⟨.word text quote, place⟩ :: input) = t.tokens E ++ tokensOf rest ∧ t.value E = x := by
  cases htruth : (Token.word text quote).truth? with
  | some value =>
    obtain rfl := quote_of_truth htruth
    rw [wordFactor_of_truth hu htruth] at hread
    cases hread
    exact ⟨.truth ⟨text, value, htruth⟩, rfl, rfl⟩
  | none =>
    have hplain : (Token.word text quote).startsGeometry = false := hinput _ List.mem_cons_self
    rw [wordFactor_of_name htruth hplain] at hread
    split at hread
    · obtain ⟨es, htokens, rfl⟩ := functionCall_sound hu h hinput.tail hread
      exact ⟨.call ⟨text, quote, htruth⟩ es, congrArg (Token.word text quote :: ·) htokens, rfl⟩
    · obtain ⟨more, htokens, rfl⟩ := propertyName_sound hu hread
      exact ⟨.property ⟨text, quote, htruth⟩ more, congrArg (Token.word text quote :: ·) htokens, rfl⟩

/-! ### Operands -/

def operandClosers : List Sign := [.star, .slash] ++ ([.plus, .minus] ++ closers)

def nameParts : Nonterminal NamePart := ⟨NamePart, NamePart.tokens, id⟩

theorem startsWith_nameParts : nameParts.StartsWith [.period, .colon] := by
  rintro (⟨text, quote⟩ | ⟨text, quote⟩)
  · exact ⟨.period, by decide, _, rfl⟩
  · exact ⟨.colon, by decide, _, rfl⟩

theorem nameParts_ne_paren (hr : Followed operandClosers r) (more : List NamePart) (r' : List Token) :
    more.flatMap NamePart.tokens ++ r ≠ .sign .leftParen :: r' := by
  intro heq
  obtain ⟨sign, hsign, hparen⟩ := startsWith_nameParts.followed more hr _ _ heq
  cases hparen
  exact absurd hsign (by decide)

theorem not_opensParen (hr : Followed operandClosers r) {more : List NamePart}
    (h : tokensOf input = more.flatMap NamePart.tokens ++ r) : opensParen input = false := by
  rcases input with _ | ⟨⟨token, place⟩, input⟩
  · rfl
  · have hne : token ≠ .sign .leftParen := by
      rintro rfl
      exact nameParts_ne_paren hr more _ h.symm
    simp [opensParen, hne]

theorem literal_sound {x : Expression}
    (hread : (Translation.signedLiteral u >>= fun n =>
      (Pure.pure (.literal (.number n)) : Translation Expression)) input = .ok (x, rest)) :
    ∃ t : Factor E.Tree, tokensOf input = t.tokens E ++ tokensOf rest ∧ t.value E = x := by
  obtain ⟨v, mid, hsigned, hpure⟩ := bind_eq_ok hread
  cases hpure
  obtain ⟨n, htokens, rfl⟩ := signedLiteral_sound hsigned
  exact ⟨.number n, htokens, rfl⟩

theorem group_sound (h : ReadsInner inner? E) {levels : Nat} {place : Place} {x : Expression}
    (hinput : WithoutGeometry (tokensOf input))
    (hread : Translation.factor u levels inner? (⟨.sign .leftParen, place⟩ :: input) = .ok (x, rest)) :
    ∃ t : Factor E.Tree,
      tokensOf (⟨.sign .leftParen, place⟩ :: input) = t.tokens E ++ tokensOf rest ∧ t.value E = x := by
  obtain ⟨token?, mid, hpeek, hgroup⟩ := bind_eq_ok hread
  cases read_eq_ok hpeek
  obtain ⟨opener, mid, hnext, hbody⟩ := bind_eq_ok hgroup
  cases read_eq_ok hnext
  obtain ⟨x', mid', hnested, hclosing⟩ := bind_eq_ok hbody
  obtain ⟨_, mid'', hclosed, hpure⟩ := bind_eq_ok hclosing
  obtain ⟨place', rfl⟩ := Phrase.require_eq_ok (read_eq_ok hclosed)
  cases hpure
  obtain ⟨t, ht, rfl⟩ := (h.nested _).sound hinput hnested
  have hinner := ht.trans (List.append_assoc _ [Token.sign .rightParen] _).symm
  exact ⟨.group t, congrArg (Token.sign .leftParen :: ·) hinner, rfl⟩

theorem factor_sound (hu : u.IsPlain) (h : ReadsInner inner? E) {levels : Nat} {x : Expression}
    (hinput : WithoutGeometry (tokensOf input))
    (hread : Translation.factor u levels inner? input = .ok (x, rest)) :
    ∃ t : Factor E.Tree, tokensOf input = t.tokens E ++ tokensOf rest ∧ t.value E = x := by
  obtain ⟨token?, mid, hpeek, hfactor⟩ := bind_eq_ok hread
  cases read_eq_ok hpeek
  rcases input with _ | ⟨⟨token, place⟩, input⟩
  · cases hfactor
  cases token with
  | word text quote => exact wordFactor_sound hu h hinput hfactor
  | number text long => exact literal_sound hfactor
  | quoted text =>
    obtain ⟨source, mid, hnext, hcomplete⟩ := bind_eq_ok hfactor
    cases read_eq_ok hnext
    obtain ⟨_, hvalue, rfl⟩ := complete_eq_ok hcomplete
    cases hvalue
    exact ⟨.quoted text, rfl, rfl⟩
  | other spelling => cases hfactor
  | sign sign =>
    cases sign with
    | minus => exact literal_sound hfactor
    | leftParen => exact group_sound h hinput.tail hread
    | _ => cases hfactor

theorem literal_complete (hu : u.IsPlain) (levels : Nat) (n : SignedNumber)
    (htokens : tokensOf input = n.tokens ++ r) :
    ∃ rest, Translation.factor u levels inner? input = .ok (.literal (.number n.value), rest) ∧
      tokensOf rest = r := by
  obtain ⟨rest, hsigned, hrest⟩ := signedLiteral_complete hu n htokens
  refine ⟨rest, ?_, hrest⟩
  have hliteral : Translation.factor u levels inner? input = (Translation.signedLiteral u >>= fun n =>
      (Pure.pure (.literal (.number n)) : Translation Expression)) input := by
    rcases n with ⟨negative, text, long, value, hreads⟩
    cases negative
    all_goals
      obtain ⟨place, mid, rfl, _⟩ := tokensOf_eq_cons htokens
      rfl
  rw [hliteral, bind_of_ok hsigned]
  rfl

theorem group_complete (h : ReadsInner inner? E) (levels : Nat) (e : E.Tree)
    (hinput : WithoutGeometry (tokensOf input))
    (htokens : tokensOf input = Factor.tokens E (.group e) ++ r) :
    ∃ rest, Translation.factor u levels inner? input = .ok (E.value e, rest) ∧ tokensOf rest = r := by
  obtain ⟨place, mid, rfl, hmid⟩ := tokensOf_eq_cons htokens
  have hinner : tokensOf mid = E.tokens e ++ ([.sign .rightParen] ++ r) :=
    hmid.trans (List.append_assoc _ [Token.sign .rightParen] _)
  obtain ⟨mid', hnested, hmid'⟩ :=
    (h.nested ⟨"(", place⟩).complete hinput.tail hinner (followed_cons (by decide) r)
  obtain ⟨place', rest, rfl, hrest⟩ := tokensOf_eq_cons hmid'
  refine ⟨rest, ?_, hrest⟩
  change (Translation.nested inner? ⟨"(", place⟩ >>= fun x => do
    Translation.read (Phrase.require .rightParen)
    return x) mid = _
  rw [bind_of_ok hnested, bind_of_ok (read_of_ok (require_sign _ _ _))]
  rfl

theorem factor_of_name (name : Name) (levels : Nat) {place : Place}
    (hinput : WithoutGeometry (tokensOf (⟨name.token, place⟩ :: input))) :
    Translation.factor u levels inner? (⟨name.token, place⟩ :: input) =
      if opensParen input then Translation.functionCall u inner? (⟨name.token, place⟩ :: input)
      else Translation.propertyName u (⟨name.token, place⟩ :: input) :=
  wordFactor_of_name name.free (hinput _ List.mem_cons_self) levels place

theorem call_complete (hu : u.IsPlain) (h : ReadsInner inner? E) (levels : Nat) (name : Name)
    (es : List E.Tree) (hinput : WithoutGeometry (tokensOf input))
    (htokens : tokensOf input = Factor.tokens E (.call name es) ++ r) :
    ∃ rest, Translation.factor u levels inner? input = .ok (.function name.text (es.map E.value), rest) ∧
      tokensOf rest = r := by
  obtain ⟨place, mid, rfl, hmid⟩ := tokensOf_eq_cons htokens
  obtain ⟨rest, hcall, hrest⟩ := functionCall_complete hu h name.text name.quote place hinput.tail hmid
  have hparen : opensParen mid = true := by
    obtain ⟨place', mid', rfl, _⟩ := tokensOf_eq_cons hmid
    rfl
  refine ⟨rest, ?_, hrest⟩
  rw [factor_of_name name levels hinput, if_pos hparen]
  exact hcall

theorem property_complete (hu : u.IsPlain) (levels : Nat) (first : Name) (more : List NamePart)
    (hinput : WithoutGeometry (tokensOf input))
    (htokens : tokensOf input = Factor.tokens E (.property first more) ++ r)
    (hr : Followed operandClosers r) :
    ∃ rest, Translation.factor u levels inner? input =
      .ok (.property ⟨NamePart.segments first.text more⟩, rest) ∧ tokensOf rest = r := by
  obtain ⟨place, mid, rfl, hmid⟩ := tokensOf_eq_cons htokens
  have hend : ∀ input current, tokensOf input = r → Grammar.attributeNames current input = ([current], input) :=
    fun input current htokens => attributeNames_of_followed (by decide) (by decide) (htokens ▸ hr) current
  obtain ⟨rest, hproperty, hrest⟩ := propertyName_complete hu.permits hend hmid first.text first.quote place
  rw [hu.factory] at hproperty
  refine ⟨rest, ?_, hrest⟩
  rw [factor_of_name first levels hinput, not_opensParen hr hmid, if_neg Bool.false_ne_true]
  exact hproperty

theorem factor_complete (hu : u.IsPlain) (h : ReadsInner inner? E) (levels : Nat) (t : Factor E.Tree)
    (hinput : WithoutGeometry (tokensOf input)) (htokens : tokensOf input = t.tokens E ++ r)
    (hr : Followed operandClosers r) :
    ∃ rest, Translation.factor u levels inner? input = .ok (t.value E, rest) ∧ tokensOf rest = r := by
  cases t with
  | number n => exact literal_complete hu levels n htokens
  | quoted text =>
    obtain ⟨place, rest, rfl, hrest⟩ := tokensOf_eq_cons htokens
    exact ⟨rest, complete_of_permits (hu.permits _) _ _, hrest⟩
  | truth word =>
    obtain ⟨place, rest, rfl, hrest⟩ := tokensOf_eq_cons htokens
    exact ⟨rest, wordFactor_of_truth hu word.stands levels place, hrest⟩
  | group e => exact group_complete h levels e hinput htokens
  | call name es => exact call_complete hu h levels name es hinput htokens
  | property first more => exact property_complete hu levels first more hinput htokens hr

theorem opens_factors : (factors E).Opens := by
  rintro (n | _ | _ | _ | _ | _)
  · rcases n with ⟨negative, text, long, value, hreads⟩
    cases negative <;> exact ⟨_, _, rfl, nofun⟩
  all_goals exact ⟨_, _, rfl, nofun⟩

theorem reads_factor (hu : u.IsPlain) (h : ReadsInner inner? E) (levels : Nat) :
    Reads (Translation.factor u levels inner?) (factors E) operandClosers where
  opens := opens_factors
  sound hinput hread := factor_sound hu h hinput hread
  complete {_ t _} hinput htokens hr := factor_complete hu h levels t hinput htokens hr

end GeoFilter
