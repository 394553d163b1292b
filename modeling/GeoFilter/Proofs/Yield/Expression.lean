import GeoFilter.Proofs.Yield

/-!
# What expressions come to

Sums and products of operands whose tokens are known.  An expression ends before a token at which neither an
operand nor a sum goes on.
-/

namespace GeoFilter

open Translation (read bind_of_ok read_of_ok)

/-- Whether an attribute that might end goes on at a token, or is a call. -/
def Token.prolongsName : Token → Bool
  | .sign s => [Sign.leftParen, .period, .colon].contains s
  | _ => false

abbrev EndsName : List Token → Prop := Without Token.prolongsName

/-- Whether an operand or a sum that might end goes on at a token. -/
def Token.prolongs : Token → Bool
  | .sign s => [Sign.leftParen, .period, .colon, .plus, .minus, .star, .slash].contains s
  | _ => false

/-- Whether a word may be the name of a function. -/
def Keyword.isCallable : Keyword → Bool
  | .TRUE | .FALSE | .ENVELOPE | .shape _ => false
  | _ => true

abbrev EndsExpression : List Token → Prop := Without Token.prolongs

theorem EndsExpression.endsName {r : List Token} (h : EndsExpression r) : EndsName r := by
  refine h.mono fun token htoken => ?_
  cases token with
  | sign s => cases s <;> first | rfl | cases htoken
  | _ => cases htoken

def ArithmeticOp.sign : ArithmeticOp → Sign
  | add => .plus
  | sub => .minus
  | mul => .star
  | div => .slash

namespace Yields

variable {u : Setting} {ts ts' : List Token} {F G : List Token → Prop}

/-! ### Operators -/

theorem acceptOperator_of_without {first second : Operator} {input : List Lexeme}
    (h : Without (fun token => token == .sign first.1 || token == .sign second.1) (tokensOf input)) :
    (Grammar.acceptOperator first second input).outcome = .ok (none, input) := by
  have hfirst : (Phrase.accept first.1 input).outcome = .ok (none, input) :=
    acceptIf_none fun token htoken => (Bool.or_eq_false_iff.mp (h token htoken)).1
  have hsecond : (Phrase.accept second.1 input).outcome = .ok (none, input) :=
    acceptIf_none fun token htoken => (Bool.or_eq_false_iff.mp (h token htoken)).2
  rw [Grammar.acceptOperator, Phrase.outcome_bind, hfirst]
  dsimp only
  rw [Phrase.outcome_bind, hsecond]
  rfl

/-- Operands with operators of one strength between them, grouped from the left. -/
theorem leftGrouped (hpermits : ∀ red, u.permits red = true) {first second : Operator} (hne : first.1 ≠ second.1)
    {operand : Translation Expression} {tokens : δ → List Token} {value? : δ → Option Expression} {x : δ}
    {more : List (Operator × δ)} (hmore : ∀ next ∈ more, next.1 ∈ [first, second])
    (hoperand : ∀ y ∈ x :: more.map Prod.snd, Yields operand (tokens y) F (value? y))
    (hF : ∀ next ∈ more, ∀ r, F (.sign next.1.1 :: r)) (hGF : ∀ r, G r → F r)
    (hG : ∀ r, G r → Without (fun token => token == .sign first.1 || token == .sign second.1) r) :
    Yields (Translation.leftGrouped u (Grammar.acceptOperator first second) operand)
      (tokens x ++ more.flatMap fun next => .sign next.1.1 :: tokens next.2) G
      ((value? x).bind fun e =>
        (more.mapM fun next => (value? next.2).map fun e' => (next.1.2, e')).map (Translation.grouped u e)) := by
  have hnext : ∀ next ∈ more, ∀ place rest, ∃ a,
      (Grammar.acceptOperator first second (⟨.sign next.1.1, place⟩ :: rest)).outcome = .ok (some a, rest) ∧
        Yields (Translation.nextOperand u operand a) (tokens next.2) F
          ((value? next.2).map fun e' => (next.1.2, e')) := by
    intro next hnext place rest
    obtain ⟨token, htoken⟩ := acceptOperator_of_sign hne (hmore next hnext) place rest
    refine ⟨(token, next.1.2), htoken, ?_⟩
    have hvalue := hoperand next.2 (List.mem_cons_of_mem _ (List.mem_map_of_mem hnext))
    rw [Option.map_eq_bind]
    exact hvalue.bind_pure fun e' _ => .complete hpermits _ _ _
  have hrepeat := repeatAfter hnext (fun input hinput => acceptOperator_of_without (hG _ hinput))
    hF hGF
  refine (hoperand x List.mem_cons_self).bind (fun e _ => hrepeat.map _) fun r hr => ?_
  cases more with
  | nil => exact hGF r hr
  | cons next more => exact hF next List.mem_cons_self _

theorem leftGrouped_single {first second : Operator} {operand : Translation Expression} {x? : Option Expression}
    (hoperand : Yields operand ts F x?)
    (hF : ∀ r, F r → Without (fun token => token == .sign first.1 || token == .sign second.1) r) :
    Yields (Translation.leftGrouped u (Grammar.acceptOperator first second) operand) ts F x? := by
  have hx : x? = x?.bind fun e => (some []).map (Translation.grouped u e) := (Option.bind_fun_some x?).symm
  rw [hx]
  exact hoperand.bind_pure fun e _ =>
    (repeatAfter_none fun input hinput => acceptOperator_of_without (hF _ hinput)).map _

theorem leftGrouped_pair (hpermits : ∀ red, u.permits red = true) {first second : Operator} (hne : first.1 ≠ second.1)
    {operator : Operator} (hoperator : operator ∈ [first, second]) {operand : Translation Expression} {x y : Expression}
    (hleft : Yields operand ts F (some x)) (hright : Yields operand ts' F (some y)) (hF : ∀ r, F (.sign operator.1 :: r))
    (hGF : ∀ r, G r → F r)
    (hG : ∀ r, G r → Without (fun token => token == .sign first.1 || token == .sign second.1) r) :
    Yields (Translation.leftGrouped u (Grammar.acceptOperator first second) operand)
      (ts ++ .sign operator.1 :: ts') G (some (u.kit.factory.arithmetic operator.2 x y)) := by
  have hoperand : ∀ part ∈ [(ts, x), (ts', y)], Yields operand part.1 F (some part.2) :=
    List.forall_mem_cons.mpr ⟨hleft, List.forall_mem_singleton.mpr hright⟩
  have hmore : ∀ next ∈ [(operator, ts', y)], next.1 ∈ [first, second] := by simpa using hoperator
  have hpair := leftGrouped hpermits hne hmore hoperand (by simpa using hF) hGF hG
  simpa [Translation.grouped] using hpair

theorem ends_sum {r : List Token} (h : EndsExpression r) :
    Without (fun token => token == .sign .plus || token == .sign .minus) r := by
  refine h.mono fun token htoken => ?_
  rcases (Bool.or_eq_true _ _).mp htoken with heq | heq
  · rw [beq_iff_eq.mp heq]
    rfl
  · rw [beq_iff_eq.mp heq]
    rfl

theorem ends_product {r : List Token} (h : EndsExpression r) :
    Without (fun token => token == .sign .star || token == .sign .slash) r := by
  refine h.mono fun token htoken => ?_
  rcases (Bool.or_eq_true _ _).mp htoken with heq | heq
  · rw [beq_iff_eq.mp heq]
    rfl
  · rw [beq_iff_eq.mp heq]
    rfl

theorem sumOf_single {operand : Translation Expression} {x? : Option Expression} (hF : ∀ r, F r → EndsExpression r)
    (hoperand : Yields operand ts F x?) : Yields (Translation.sumOf u operand) ts F x? :=
  leftGrouped_single (leftGrouped_single hoperand fun r hr => ends_product (hF r hr)) fun r hr => ends_sum (hF r hr)

/-! ### Operands -/

theorem signedLiteral (hpermits : ∀ red, u.permits red = true) (n : SignedNumber) :
    Yields (Translation.signedLiteral u) n.tokens F (some n.value) := by
  intro input r htokens _
  obtain ⟨minus?, token, v, rest, hsigned, _, hnumber, hsign, hrest⟩ := signed_complete hpermits n htokens
  refine ⟨rest, ?_, hrest⟩
  rw [Translation.signedLiteral, bind_of_ok (read_of_ok hsigned), hnumber,
    bind_of_ok (Translation.complete_of_permits (hpermits _) _ _)]
  exact hsign

theorem factor_number (hpermits : ∀ red, u.permits red = true) (n : SignedNumber) {levels : Nat}
    {inner? : Option (Translation Expression)} :
    Yields (Translation.factor u levels inner?) n.tokens F (some (.literal (.number n.value))) := by
  have hnumber : Yields (Translation.signedLiteral u >>= fun v => Pure.pure (Expression.literal (.number v)))
      n.tokens F (some (.literal (.number n.value))) := (signedLiteral hpermits n).map _
  rcases n with ⟨negative, text, long, value, hreads⟩
  cases negative with
  | false => exact peek_bind hnumber
  | true => exact peek_bind hnumber

theorem attributeNames_of_ends {input : List Lexeme} (h : EndsName (tokensOf input)) (current : SourceToken) :
    Grammar.attributeNames current input = ([current], input) := by
  rcases input with _ | ⟨⟨token, place⟩, input⟩
  · rfl
  · have hends : token.prolongsName = false := h token rfl
    unfold Grammar.attributeNames
    split
    case h_1 heq =>
      cases heq
      cases hends
    case h_2 heq =>
      cases heq
      cases hends
    case h_3 => rfl

theorem propertyName (hpermits : ∀ red, u.permits red = true) (text : String) (quote : Option Char)
    (more : List NamePart) :
    Yields (Translation.propertyName u) (.word text quote :: more.flatMap NamePart.tokens) EndsName
      (some (u.kit.factory.property (NamePart.segments text more))) := by
  intro input r htokens hr
  obtain ⟨place, mid, rfl, hmid⟩ := tokensOf_eq_cons htokens
  have hend : ∀ input current, tokensOf input = r → Grammar.attributeNames current input = ([current], input) :=
    fun input current hinput => attributeNames_of_ends (hinput ▸ hr) current
  exact propertyName_complete hpermits hend hmid text quote place

theorem not_called {more : List NamePart} {r : List Token} (hr : EndsName r) :
    ((more.flatMap NamePart.tokens ++ r).head? == some (.sign .leftParen)) = false := by
  rcases more with _ | ⟨part, more⟩
  · rcases r with _ | ⟨token, r⟩
    · rfl
    · have hends : token.prolongsName = false := hr token rfl
      refine beq_eq_false_iff_ne.mpr fun heq => ?_
      cases heq
      cases hends
  · cases part <;> rfl

/-- An attribute is an operand of an expression, if its first word is neither a truth value nor SRID with an equals
sign behind it. -/
theorem factor_property (hpermits : ∀ red, u.permits red = true) {text : String} {quote : Option Char}
    (more : List NamePart) (hname : (Token.word text quote).truth? = none) (hF : ∀ r, F r → EndsName r)
    (hsrid : ∀ r, F r → (Token.word text quote).keyword? = some .SRID →
      (more.flatMap NamePart.tokens ++ r).head? ≠ some (.sign .equal))
    {levels : Nat} {inner? : Option (Translation Expression)} :
    Yields (Translation.factor u levels inner?) (.word text quote :: more.flatMap NamePart.tokens) F
      (some (u.kit.factory.property (NamePart.segments text more))) := by
  have hproperty := (propertyName (u := u) hpermits text quote more).mono hF
  have hcalled : ∀ r, F r →
      ((Token.word text quote :: more.flatMap NamePart.tokens ++ r).tail.head? == some (.sign .leftParen)) = false :=
    fun r hr => not_called (hF r hr)
  refine peek_bind (parenFollows_bind hcalled ?_)
  unfold Token.truth? at hname
  split
  case h_1 htrue =>
    rw [htrue] at hname
    cases hname
  case h_2 hfalse =>
    rw [hfalse] at hname
    cases hname
  case h_3 hreserved =>
    have hsecond : ∀ input r, tokensOf input = .word text quote :: more.flatMap NamePart.tokens ++ r → F r →
        (Phrase.peekSecond input).outcome = .ok ((more.flatMap NamePart.tokens ++ r).head?, input) := by
      intro input r htokens _
      obtain ⟨place, rest, rfl, hrest⟩ := tokensOf_eq_cons htokens
      have hhead : rest.head?.map Lexeme.token = (more.flatMap NamePart.tokens ++ r).head? := by
        rw [← List.head?_map]
        exact congrArg List.head? hrest
      rw [← hhead]
      rfl
    intro input r htokens hr
    rw [bind_of_ok (read_of_ok (hsecond input r htokens hr)), if_neg (by simpa using hsrid r hr hreserved)]
    exact hproperty input r htokens hr
  case h_4 => exact hproperty
  case h_5 => exact hproperty
  case h_6 => exact hproperty

theorem factor_quoted (hpermits : ∀ red, u.permits red = true) (text : String) {levels : Nat}
    {inner? : Option (Translation Expression)} :
    Yields (Translation.factor u levels inner?) [.quoted text] F (some (.literal (.string text))) :=
  peek_bind (next_bind fun _ => complete hpermits _ _ _)

theorem factor_truth (hu : u.IsPlain) (word : TruthWord) {levels : Nat} {inner? : Option (Translation Expression)} :
    Yields (Translation.factor u levels inner?) [.word word.text none] F (some (.literal (.boolean word.value))) := by
  apply peek_bind
  intro input r htokens _
  obtain ⟨place, rest, rfl, hrest⟩ := tokensOf_eq_cons htokens
  exact ⟨rest, wordFactor_of_truth hu word.stands levels place, hrest⟩

theorem factor_group {inner : Translation Expression} {x : Expression}
    (h : Yields inner ts (Followed [.rightParen]) (some x)) {levels : Nat} :
    Yields (Translation.factor u levels (some inner)) (.sign .leftParen :: (ts ++ [.sign .rightParen])) F (some x) := by
  have hclose : ∀ x : Expression, Yields (read (Phrase.require .rightParen) >>= fun _ => Pure.pure x)
      [.sign .rightParen] F (some x) := fun x => require_bind (pure x)
  have hgroup := h.bind (fun x _ => hclose x) fun r _ => followed_cons List.mem_cons_self r
  exact peek_bind (next_bind fun _ => hgroup)

section Call

variable {inner? : Option (Translation Expression)} {name : String} {xs : List δ} {tokens : δ → List Token}
  {value : δ → Expression}

theorem functionCall (hpermits : ∀ red, u.permits red = true)
    (hargument : ∀ x ∈ xs, ∀ opener,
      Yields (Translation.nested inner? opener) (tokens x) (Followed [.comma, .rightParen]) (some (value x)))
    (hopens : ∀ x ∈ xs, ∃ token ts, tokens x = token :: ts ∧ token ≠ .sign .rightParen) :
    Yields (Translation.functionCall u inner?)
      (.word name none :: .sign .leftParen :: (commaTokens tokens xs ++ [.sign .rightParen])) F
      (some (u.kit.factory.function name (xs.map value))) := by
  refine next_bind fun place => require_bind ?_
  have hname : Yields (Translation.complete u .functionName [⟨name, place⟩] (.ok ())) [] Anything (some ()) :=
    complete hpermits _ _ _
  refine hname.bind_nil ?_ fun _ _ => trivial
  cases xs with
  | nil => exact acceptIf_bind rfl fun _ => complete hpermits _ _ _
  | cons x xs =>
    have hitem : ∀ y ∈ x :: xs, Yields (Translation.argument u inner?) (tokens y) (Followed [.comma, .rightParen])
        (some (value y)) := by
      intro y hy
      obtain ⟨token, ts, htokens, _⟩ := hopens y hy
      have hne : tokens y ≠ [] := by simp [htokens]
      refine here_bind hne fun opener => ?_
      have hcompleted := (hargument y hy opener).bind_pure (g := some) fun x _ =>
        complete (u := u) hpermits .functionArgument [opener] x
      exact hcompleted
    have hitems := commaSeparated (by decide) hitem
    have hvalues : xs.mapM (fun y => some (value y)) = some (xs.map value) := List.mapM_pure
    rw [hvalues] at hitems
    refine acceptIf_none_bind (fun r _ => ?_) ?_
    · obtain ⟨token, ts, htokens, hne⟩ := hopens x List.mem_cons_self
      rw [commaTokens, htokens]
      intro token' htoken
      cases htoken
      exact beq_eq_false_iff_ne.mpr hne
    · have hclose : ∀ v : Expression × List Expression, v = (value x, xs.map value) →
          Yields (read (Phrase.require .rightParen) >>= fun _ =>
            Translation.complete u .function [⟨name, place⟩] (.ok (u.kit.factory.function name (v.1 :: v.2))))
          [.sign .rightParen] F (some (u.kit.factory.function name ((x :: xs).map value))) := by
        rintro _ rfl
        exact require_bind (complete hpermits _ _ _)
      have hcall := hitems.bind (g := fun _ => _) (fun v hv => hclose v (Option.some.inj hv).symm)
        fun r _ => followed_cons List.mem_cons_self r
      exact hcall

theorem factor_call (hpermits : ∀ red, u.permits red = true) {levels : Nat}
    (hfree : ∀ keyword ∈ Keyword.ofText? name, keyword.isCallable = true)
    (hargument : ∀ x ∈ xs, ∀ opener,
      Yields (Translation.nested inner? opener) (tokens x) (Followed [.comma, .rightParen]) (some (value x)))
    (hopens : ∀ x ∈ xs, ∃ token ts, tokens x = token :: ts ∧ token ≠ .sign .rightParen) :
    Yields (Translation.factor u levels inner?)
      (.word name none :: .sign .leftParen :: (commaTokens tokens xs ++ [.sign .rightParen])) F
      (some (u.kit.factory.function name (xs.map value))) := by
  have hcall : Yields (Translation.functionCall u inner?)
      (.word name none :: .sign .leftParen :: (commaTokens tokens xs ++ [.sign .rightParen])) F
      (some (u.kit.factory.function name (xs.map value))) := functionCall hpermits hargument hopens
  refine peek_bind (parenFollows_bind (fun _ _ => rfl) ?_)
  have hkeyword : (Token.word name none).keyword? = Keyword.ofText? name := rfl
  rw [hkeyword]
  split
  case h_1 h => exact absurd (hfree _ h) (by decide)
  case h_2 h => exact absurd (hfree _ h) (by decide)
  case h_3 =>
    refine look_bind (some (.sign .leftParen)) (fun input r htokens _ => ?_) hcall
    obtain ⟨place, rest, rfl, hrest⟩ := tokensOf_eq_cons htokens
    obtain ⟨place', rest, rfl, _⟩ := tokensOf_eq_cons hrest
    rfl
  case h_4 h => exact absurd (hfree _ h) (by decide)
  case h_5 h => exact absurd (hfree _ h) Bool.false_ne_true
  case h_6 => exact hcall

end Call

/-! ### Expressions -/

theorem expression_of_factor {levels : Nat} {x? : Option Expression} (hF : ∀ r, F r → EndsExpression r)
    (hfactor : Yields (Translation.factor u levels (Translation.deeper u levels)) ts F x?) :
    Yields (Translation.expression u levels) ts F x? := by
  rw [Translation.expression_eq]
  exact sumOf_single hF hfactor

theorem expression_binary (hpermits : ∀ red, u.permits red = true) {levels : Nat} (op : ArithmeticOp) {x y : Expression}
    (hleft : Yields (Translation.factor u levels (Translation.deeper u levels)) ts F (some x))
    (hright : Yields (Translation.factor u levels (Translation.deeper u levels)) ts' F (some y))
    (hF : ∀ r, F (.sign op.sign :: r)) (hGF : ∀ r, G r → F r) (hG : ∀ r, G r → EndsExpression r) :
    Yields (Translation.expression u levels) (ts ++ .sign op.sign :: ts') G
      (some (u.kit.factory.arithmetic op x y)) := by
  rw [Translation.expression_eq]
  -- The operands of a sum are products of one operand each, and a product is the one part of a sum.
  have hsum : ∀ operator ∈ sumOperators, (∀ r, F (.sign operator.1 :: r)) →
      Yields (Translation.sumOf u (Translation.factor u levels (Translation.deeper u levels)))
        (ts ++ .sign operator.1 :: ts') G (some (u.kit.factory.arithmetic operator.2 x y)) := by
    intro operator hoperator hF
    have hproducts : ∀ {ts : List Token} {x : Expression},
        Yields (Translation.factor u levels (Translation.deeper u levels)) ts F (some x) →
        Yields (Translation.leftGrouped u (Grammar.acceptOperator (.star, .mul) (.slash, .div))
          (Translation.factor u levels (Translation.deeper u levels))) ts
          (fun r => F r ∧ Without (fun token => token == .sign .star || token == .sign .slash) r) (some x) :=
      fun h => leftGrouped_single (h.mono fun _ hr => hr.1) fun _ hr => hr.2
    refine leftGrouped_pair hpermits (by decide) hoperator (hproducts hleft) (hproducts hright) (fun r => ⟨hF r, ?_⟩)
      (fun r hr => ⟨hGF r hr, ends_product (hG r hr)⟩) fun r hr => ends_sum (hG r hr)
    simp only [sumOperators, List.mem_cons, List.not_mem_nil, or_false] at hoperator
    rcases hoperator with rfl | rfl <;> exact .cons rfl _
  have hproduct : ∀ operator ∈ productOperators, (∀ r, F (.sign operator.1 :: r)) →
      Yields (Translation.sumOf u (Translation.factor u levels (Translation.deeper u levels)))
        (ts ++ .sign operator.1 :: ts') G (some (u.kit.factory.arithmetic operator.2 x y)) := by
    intro operator hoperator hF
    have hpair := leftGrouped_pair (u := u) (G := G) hpermits (by decide) hoperator hleft hright hF hGF
      fun r hr => ends_product (hG r hr)
    exact leftGrouped_single hpair fun r hr => ends_sum (hG r hr)
  cases op with
  | add => exact hsum (.plus, .add) (by decide) hF
  | sub => exact hsum (.minus, .sub) (by decide) hF
  | mul => exact hproduct (.star, .mul) (by decide) hF
  | div => exact hproduct (.slash, .div) (by decide) hF

end Yields

end GeoFilter
