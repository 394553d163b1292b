import GeoFilter.Proofs.Framing
import GeoFilter.Proofs.Translation.Expression

/-!
# What stands behind geometries and expressions

Geometry texts and expressions are solid, also if more levels are left for nesting than they need.  The semicolon of a
geometry with the number of its reference system is taken by the literal itself.
-/

namespace GeoFilter

open Translation (read bind_of_ok)

variable {u : Setting} {sort : Token → Bool} {m n : Nat}

/-! ### Numbers -/

theorem isNumber_of_joins (token : Token) (h : token.joins = true) : Grammar.isNumber token = false := by
  cases token <;> first | rfl | cases h

theorem solid_signed : Solid sort (read Grammar.signed) (read Grammar.signed) := by
  have hminus : Framed Token.never (read (Phrase.accept .minus)) (read (Phrase.accept .minus)) := .accept rfl rfl
  rw [Grammar.signed, Translation.read_phrase_bind]
  refine hminus.bind_solid fun minus? => ?_
  rw [Translation.read_phrase_bind]
  exact (Solid.expectIf isNumber_of_joins _).map _

theorem framed_sign (minus? : Option SourceToken) (token : SourceToken) (n : Number) :
    Framed sort (Translation.sign u minus? token n) (Translation.sign u minus? token n) := by
  cases minus? with
  | none => exact .pure n
  | some minus => exact .complete u _ _ _

theorem solid_signedNumber (production : Production) :
    Solid sort (Translation.signedNumber u production) (Translation.signedNumber u production) :=
  solid_signed.bind fun _ => (Framed.complete u _ _ _).bind fun _ => (framed_sign _ _ _).map _

theorem solid_signedLiteral : Solid sort (Translation.signedLiteral u) (Translation.signedLiteral u) :=
  solid_signed.bind fun _ => (Framed.complete u _ _ _).bind fun _ => framed_sign _ _ _

/-! ### Geometry texts -/

theorem solid_coordinate : Solid sort (Translation.coordinate u) (Translation.coordinate u) :=
  (solid_signedNumber _).bind fun _ => (solid_signedNumber _).toFramed.bind fun _ => .complete u _ _ _

theorem solid_lineBody (role : GeometryRole) (token : SourceToken) :
    Solid sort (Translation.lineBody u role token) (Translation.lineBody u role token) :=
  (Solid.listed solid_coordinate).bind fun _ => .complete u _ _ _

theorem solid_ring : Solid sort (Translation.ring u) (Translation.ring u) :=
  .here_bind fun _ => solid_lineBody _ _

theorem solid_polygonBody (role : GeometryRole) (token : SourceToken) :
    Solid sort (Translation.polygonBody u role token) (Translation.polygonBody u role token) :=
  (Solid.listed solid_ring).bind fun _ => .complete u _ _ _

theorem sign_beq_of_joins {sign : Sign} (hsign : (Token.sign sign).joins = false) (token : Token)
    (h : token.joins = true) : (token == .sign sign) = false := by
  rw [beq_eq_false_iff_ne]
  rintro rfl
  cases h.symm.trans hsign

theorem solid_memberPoint : Solid sort (Translation.memberPoint u) (Translation.memberPoint u) := by
  refine .here_bind fun _ => .acceptIf_bind (sign_beq_of_joins rfl) (fun _ => ?_) ?_
  · exact solid_coordinate.toFramed.bind fun _ => (Solid.require rfl).toFramed.bind fun _ => .complete u _ _ _
  · exact solid_coordinate.bind fun _ => .complete u _ _ _

theorem solid_memberLine : Solid sort (Translation.memberLine u) (Translation.memberLine u) :=
  .here_bind fun _ => solid_lineBody _ _

theorem solid_memberPolygon : Solid sort (Translation.memberPolygon u) (Translation.memberPolygon u) :=
  .here_bind fun _ => solid_polygonBody _ _

section Members

variable {member? member'? : Option (Translation Geometry)}
  (hmember : ∀ member, member? = some member → ∃ member', member'? = some member' ∧ Solid Token.never member member')

include hmember

theorem solid_shapeBody (role : GeometryRole) (token : SourceToken) (shape : Shape) :
    Solid sort (Translation.shapeBody u member? role token shape) (Translation.shapeBody u member'? role token shape) := by
  cases shape with
  | point => exact (Solid.parenthesized solid_coordinate.toFramed).bind fun _ => .complete u _ _ _
  | lineString => exact (solid_lineBody _ _).map _
  | polygon => exact (solid_polygonBody _ _).map _
  | multiPoint => exact (Solid.listed solid_memberPoint).bind fun _ => .complete u _ _ _
  | multiLineString => exact (Solid.listed solid_memberLine).bind fun _ => .complete u _ _ _
  | multiPolygon => exact (Solid.listed solid_memberPolygon).bind fun _ => .complete u _ _ _
  | collection =>
    exact (Framed.complete u _ _ _).bind_solid fun _ =>
      (Solid.listed (Solid.nested hmember token)).bind fun _ => .complete u _ _ _

theorem solid_shapeText (role : GeometryRole) :
    Solid sort (Translation.shapeText u member? role) (Translation.shapeText u member'? role) := by
  refine .peek_bind (.unexpected _) fun l => Solid.solidAt ?_ l
  split
  · exact .next_bind fun token => solid_shapeBody hmember role token _
  · exact .unexpected _

end Members

theorem solid_geometryText (h : m ≤ n) (role : GeometryRole) :
    Solid sort (Translation.geometryText u m role) (Translation.geometryText u n role) := by
  induction m generalizing n role sort with
  | zero =>
    rw [Translation.geometryText]
    cases n <;> exact solid_shapeText (by nofun) role
  | succ m ih =>
    obtain ⟨n, rfl⟩ := Nat.exists_eq_add_of_le' (Nat.one_le_of_lt h)
    rw [Translation.geometryText, Translation.geometryText]
    refine solid_shapeText (fun member hmember => ?_) role
    cases hmember
    exact ⟨_, rfl, ih (Nat.le_of_succ_le_succ h) _⟩

theorem solid_geometryLiteral (h : m ≤ n) :
    Solid sort (Translation.geometryLiteral u m) (Translation.geometryLiteral u n) :=
  .here_bind fun _ => (solid_geometryText h _).bind fun _ => .complete u _ _ _

theorem solid_sridLiteral (h : m ≤ n) : Solid sort (Translation.sridLiteral u m) (Translation.sridLiteral u n) := by
  refine .next_bind fun keyword => (Solid.require rfl).bind fun _ => ?_
  cases u.dialect with
  | cql =>
    exact (solid_signedNumber _).toFramed.bind fun _ => (Solid.require rfl).toFramed.bind fun _ =>
      (solid_geometryLiteral h).toFramed.bind fun _ => .complete u _ _ _
  | ecql =>
    exact solid_signed.toFramed.bind fun _ => (Solid.require rfl).toFramed.bind fun _ =>
      (solid_geometryLiteral h).toFramed.bind fun _ => .complete u _ _ _

theorem solid_envelopeBound : Solid sort (Translation.envelopeBound u) (Translation.envelopeBound u) := by
  unfold Translation.envelopeBound
  cases u.dialect with
  | cql => exact (solid_signedNumber _).map _
  | ecql => exact solid_signed.map _

theorem framed_referenceSystem :
    Framed Token.never (read Grammar.referenceSystem?) (read Grammar.referenceSystem?) := by
  rw [Grammar.referenceSystem?, Translation.read_phrase_bind]
  refine (Framed.accept rfl rfl).bind fun comma? => ?_
  cases comma? with
  | none => exact .pure []
  | some comma =>
    dsimp only
    rw [Translation.read_phrase_bind]
    refine (Solid.expectIf (fun token htoken => ?_) _).toFramed.map _
    cases token <;> first | rfl | cases htoken

theorem solid_envelope : Solid sort (Translation.envelope u) (Translation.envelope u) :=
  .next_bind fun _ => (Solid.require rfl).bind fun _ =>
    solid_envelopeBound.toFramed.bind fun _ => (Solid.require rfl).toFramed.bind fun _ =>
      solid_envelopeBound.toFramed.bind fun _ => (Solid.require rfl).toFramed.bind fun _ =>
        solid_envelopeBound.toFramed.bind fun _ => (Solid.require rfl).toFramed.bind fun _ =>
          solid_envelopeBound.toFramed.bind fun _ => (framed_referenceSystem.bind_solid fun _ =>
            (Solid.require rfl).bind fun _ => .complete u _ _ _).toFramed

/-! ### Operands -/

def GoesOn (input : List Lexeme) : Prop :=
  ∃ l text quote place rest, input = l :: ⟨.word text quote, place⟩ :: rest ∧ l.token.joins = true

theorem attributeNames_of_not_goesOn {current : SourceToken} {input : List Lexeme} (h : ¬GoesOn input) :
    Grammar.attributeNames current input = ([current], input) := by
  unfold Grammar.attributeNames
  split
  case h_1 => exact absurd ⟨_, _, _, _, _, rfl, rfl⟩ h
  case h_2 => exact absurd ⟨_, _, _, _, _, rfl, rfl⟩ h
  case h_3 => rfl

theorem attributeNames_of_goesOn (current : SourceToken) {input : List Lexeme} (h : GoesOn input) :
    (Grammar.attributeNames current input).2.length + 2 ≤ input.length := by
  obtain ⟨⟨token, place⟩, text, quote, place', rest, rfl, hjoins⟩ := h
  have hsuffix : ∀ current : SourceToken, (Grammar.attributeNames current rest).2.length ≤ rest.length :=
    fun current => (Translation.attributeNames_suffix current rest).length_le
  rcases Token.eq_of_joins hjoins with rfl | rfl
  · simp only [Grammar.attributeNames, List.length_cons]
    exact Nat.add_le_add_right (hsuffix _) 2
  · simp only [Grammar.attributeNames, List.length_cons]
    exact Nat.add_le_add_right (hsuffix _) 2

/-- A name that ends before some lexemes ends before others as well, if nothing joins names where it stops. -/
theorem Exchange.not_goesOn (hsort : ∀ token : Token, sort token = true → token.joins = false) {tail tail' : List Lexeme}
    (hexchange : Exchange sort tail tail') (h : ¬GoesOn tail) : ¬GoesOn tail' := by
  rintro ⟨l, text, quote, place, rest, rfl, hjoins⟩
  rcases hexchange with _ | hl | _ | ⟨_, hends⟩
  · exact h ⟨_, _, _, _, _, rfl, hjoins⟩
  · cases hl.symm.trans hjoins
  · exact h ⟨_, _, _, _, _, rfl, hjoins⟩
  · cases (hsort _ (hends l rfl)).symm.trans hjoins

theorem attributeNames_frame (hsort : ∀ token : Token, sort token = true → token.joins = false) {current : SourceToken}
    {taken tail tail' : List Lexeme} {names : List SourceToken} (hexchange : Exchange sort tail tail')
    (h : Grammar.attributeNames current (taken ++ tail) = (names, tail)) :
    Grammar.attributeNames current (taken ++ tail') = (names, tail') := by
  fun_induction Grammar.attributeNames current taken generalizing names
  case case1 ih =>
    simp only [List.cons_append, Grammar.attributeNames, Prod.mk.injEq] at h ⊢
    obtain ⟨rfl, hrest⟩ := h
    rw [ih (Prod.ext rfl hrest)]
    exact ⟨rfl, rfl⟩
  case case2 ih =>
    simp only [List.cons_append, Grammar.attributeNames] at h ⊢
    exact ih h
  case case3 current taken hperiod hcolon =>
    -- what was taken does not start with another name, so that nothing was taken
    have hnot : ¬GoesOn (taken ++ tail) := by
      intro hgoes
      have hlength := attributeNames_of_goesOn current hgoes
      rw [h, List.length_append] at hlength
      obtain ⟨l, m, more, rfl⟩ : ∃ l m more, taken = l :: m :: more := by
        rcases taken with _ | ⟨l, _ | ⟨m, more⟩⟩
        · rw [List.length_nil] at hlength
          dsimp only at hlength
          omega
        · rw [List.length_singleton] at hlength
          dsimp only at hlength
          omega
        · exact ⟨l, m, more, rfl⟩
      obtain ⟨⟨token, place⟩, text, quote, place', rest, hinput, hjoins⟩ := hgoes
      cases hinput
      rcases Token.eq_of_joins hjoins with rfl | rfl
      · exact hperiod _ _ _ _ _ rfl
      · exact hcolon _ _ _ _ _ rfl
    rw [attributeNames_of_not_goesOn hnot] at h
    obtain ⟨rfl, htaken⟩ := Prod.mk.inj h
    obtain rfl := List.append_left_eq_self.mp htaken
    exact attributeNames_of_not_goesOn (hexchange.not_goesOn hsort hnot)

theorem suffix_attributeTail (first : SourceToken) (input : List Lexeme) (names : List SourceToken) (rest : List Lexeme)
    (h : read (Translation.attributeTail first) input = .ok (names, rest)) : rest <:+ input := by
  obtain ⟨rfl, rfl⟩ := Prod.mk.inj (Except.ok.inj h)
  exact Translation.attributeNames_suffix first input

theorem framed_attributeTail (hsort : ∀ token : Token, sort token = true → token.joins = false) (first : SourceToken) :
    Framed sort (read (Translation.attributeTail first)) (read (Translation.attributeTail first)) where
  suffix := suffix_attributeTail first
  proper := by
    intro l rest names _ h
    by_cases hgoes : GoesOn (l :: rest)
    · have hlength := attributeNames_of_goesOn first hgoes
      rw [Except.ok.inj h, List.length_cons] at hlength
      simp at hlength
    · have hnone : Grammar.attributeNames first (l :: rest) = (names, rest) := Except.ok.inj h
      rw [attributeNames_of_not_goesOn hgoes] at hnone
      exact List.cons_ne_self l rest (Prod.mk.inj hnone).2
  frame taken tail tail' names hexchange h := congrArg Except.ok (attributeNames_frame hsort hexchange (Except.ok.inj h))

theorem isAnyWord_of_joins (token : Token) (h : token.joins = true) : Grammar.isAnyWord token = false := by
  rcases Token.eq_of_joins h with rfl | rfl <;> rfl

theorem joins_of_endsOperand (token : Token) (h : token.endsOperand = true) : token.joins = false := by
  cases hjoins : token.joins with
  | false => rfl
  | true => rcases Token.eq_of_joins hjoins with rfl | rfl <;> cases h

theorem solid_propertyName : Solid Token.endsOperand (Translation.propertyName u) (Translation.propertyName u) :=
  (Solid.expectIf isAnyWord_of_joins _).bind fun first =>
    (framed_attributeTail joins_of_endsOperand first).bind fun _ => .complete u _ _ _

theorem solid_plainGeometry (h : m ≤ n) :
    Solid sort (Translation.plainGeometry u m) (Translation.plainGeometry u n) :=
  (solid_geometryLiteral h).map _

theorem solid_ofGeometry {literal literal' : Translation GeometryLiteral} (h : Solid sort literal literal') :
    Solid sort (Translation.ofGeometry literal) (Translation.ofGeometry literal') :=
  h.map _

theorem SolidAt.parenFollows_bind {l : Lexeme} {f f' : Bool → Translation β}
    (hf : ∀ called, SolidAt Token.endsOperand l (f called) (f' called)) :
    SolidAt Token.endsOperand l (read Grammar.parenFollows >>= f) (read Grammar.parenFollows >>= f') := by
  rw [Grammar.parenFollows, Translation.read_phrase_bind, Translation.bind_assoc, Translation.bind_assoc]
  refine .peekSecond_bind (fun _ => hf _) fun token htoken => ?_
  have hparen : (some token == some (.sign .leftParen)) = false := by
    rw [beq_eq_false_iff_ne]
    rintro ⟨⟩
    cases htoken
  exact ⟨congrArg (fun called => read (Pure.pure called : Phrase Bool) >>= f) hparen,
    congrArg (fun called => read (Pure.pure called : Phrase Bool) >>= f') hparen⟩

section Nested

variable {inner? inner'? : Option (Translation Expression)}
  (hinner : ∀ inner, inner? = some inner → ∃ inner', inner'? = some inner' ∧ Solid Token.never inner inner')

include hinner

theorem solid_argument : Solid Token.never (Translation.argument u inner?) (Translation.argument u inner'?) :=
  .here_bind fun token => (Solid.nested hinner token).bind fun _ => .complete u _ _ _

theorem solid_functionCall : Solid sort (Translation.functionCall u inner?) (Translation.functionCall u inner'?) := by
  refine .next_bind fun _ => (Solid.require rfl).bind fun _ => (Framed.complete u _ _ _).bind fun _ =>
    Solid.toFramed (.acceptIf_bind (sign_beq_of_joins rfl) (fun _ => .complete u _ _ _) ?_)
  exact (Solid.commaSeparated rfl (solid_argument hinner)).bind_solid fun _ => (Solid.require rfl).bind fun _ =>
    .complete u _ _ _

theorem solidAt_wordFactor (h : m ≤ n) {l : Lexeme} (hl : l.token.joins = false) (keyword? : Option Keyword) :
    SolidAt Token.endsOperand l (Translation.wordFactor u m inner? keyword?)
      (Translation.wordFactor u n inner'? keyword?) := by
  refine SolidAt.parenFollows_bind fun called => ?_
  have hname : SolidAt Token.endsOperand l (Translation.propertyName u) (Translation.propertyName u) :=
    solid_propertyName.solidAt l
  have hcall : SolidAt Token.endsOperand l
      (if called = true then Translation.functionCall u inner? else Translation.propertyName u)
      (if called = true then Translation.functionCall u inner'? else Translation.propertyName u) := by
    cases called with
    | true => exact (solid_functionCall hinner).solidAt l
    | false => exact hname
  split
  case h_1 => exact .next_bind hl fun _ => .complete u _ _ _
  case h_2 => exact .next_bind hl fun _ => .complete u _ _ _
  case h_3 =>
    refine .peekSecond_bind (fun second? => ?_) fun token htoken => ?_
    · split
      · exact (solid_ofGeometry (solid_sridLiteral h)).solidAt l
      · exact hcall
    · have hequal : (some token == some (Token.sign .equal)) = false := by
        rw [beq_eq_false_iff_ne]
        rintro ⟨⟩
        cases htoken
      rw [hequal]
      exact ⟨rfl, rfl⟩
  case h_4 =>
    split
    · exact (solid_ofGeometry solid_envelope).solidAt l
    · exact hname
  case h_5 =>
    split
    · exact (solid_plainGeometry h).solidAt l
    · exact hname
  case h_6 => exact hcall

theorem solid_factor (h : m ≤ n) :
    Solid Token.endsOperand (Translation.factor u m inner?) (Translation.factor u n inner'?) := by
  refine .peek_bind (.unexpected _) fun l => ?_
  have hnumber : Solid Token.endsOperand (do let n ← Translation.signedLiteral u; return Expression.literal (.number n))
      (do let n ← Translation.signedLiteral u; return Expression.literal (.number n)) := solid_signedLiteral.map _
  cases htoken : l.token with
  | sign s =>
    split
    case h_1 => exact hnumber.solidAt l
    case h_2 => exact hnumber.solidAt l
    case h_3 =>
      refine Solid.solidAt (.next_bind fun opener => ?_) l
      exact (Solid.nested hinner opener).bind_solid fun _ => (Solid.require rfl).map _
    case h_4 hquoted => cases hquoted
    case h_5 hword => cases hword
    case h_6 => exact Solid.solidAt (.unexpected _) l
  | number => exact hnumber.solidAt l
  | quoted => exact .next_bind (by rw [htoken]; rfl) fun _ => .complete u _ _ _
  | word => exact solidAt_wordFactor hinner h (by rw [htoken]; rfl) _
  | other => exact Solid.solidAt (.unexpected _) l

end Nested

/-! ### Sums -/

theorem separates_acceptOperator {first second : Sign × ArithmeticOp} (hfirst : sort (.sign first.1) = false)
    (hfirst' : (Token.sign first.1).joins = false) (hsecond : sort (.sign second.1) = false)
    (hsecond' : (Token.sign second.1).joins = false) : Separates sort (Grammar.acceptOperator first second) := by
  have hp : Separates sort (Phrase.accept first.1) := separates_accept hfirst hfirst'
  have hq : Separates sort (Phrase.accept second.1) := separates_accept hsecond hsecond'
  have hnone : ∀ {input}, read (Phrase.accept first.1) input = .ok (none, input) →
      read (Grammar.acceptOperator first second) input =
        (read (Phrase.accept second.1) >>= fun token? =>
          Pure.pure (token?.map (·, second.2)) : Translation _) input := by
    intro input hinput
    rw [Grammar.acceptOperator, Translation.read_phrase_bind, bind_of_ok hinput]
    dsimp only
    rw [Translation.read_phrase_bind]
    rfl
  have hkeep : ∀ {input}, read (Phrase.accept first.1) input = .ok (none, input) →
      read (Phrase.accept second.1) input = .ok (none, input) →
      read (Grammar.acceptOperator first second) input = .ok (none, input) := by
    intro input hinput hinput'
    rw [hnone hinput, bind_of_ok hinput']
    rfl
  refine ⟨fun tail htail => hkeep (hp.ends tail htail) (hq.ends tail htail), fun l => ?_,
    fun l hl input => hkeep (hp.joins l hl input) (hq.joins l hl input)⟩
  rcases hp.cons l with ⟨a, htake⟩ | hleave
  · refine .inl ⟨(a, first.2), fun input => ?_⟩
    rw [Grammar.acceptOperator, Translation.read_phrase_bind, bind_of_ok (htake input)]
    rfl
  · rcases hq.cons l with ⟨a, htake⟩ | hleave'
    · refine .inl ⟨(a, second.2), fun input => ?_⟩
      rw [hnone (hleave input), bind_of_ok (htake input)]
      rfl
    · exact .inr fun input => hkeep (hleave input) (hleave' input)

theorem solid_leftGrouped {operators : Phrase (Option (SourceToken × ArithmeticOp))}
    {operand operand' : Translation Expression} (hoperators : Separates sort operators)
    (hoperand : Solid sort operand operand') :
    Solid sort (Translation.leftGrouped u operators operand) (Translation.leftGrouped u operators operand') :=
  hoperand.bind fun _ => (Framed.repeatAfter hoperators fun _ =>
    hoperand.toFramed.bind fun _ => .complete u _ _ _).map _

theorem solid_sumOf {operand operand' : Translation Expression} (hoperand : Solid Token.endsOperand operand operand') :
    Solid Token.endsOperand (Translation.sumOf u operand) (Translation.sumOf u operand') :=
  solid_leftGrouped (separates_acceptOperator rfl rfl rfl rfl)
    (solid_leftGrouped (separates_acceptOperator rfl rfl rfl rfl) hoperand)

theorem solid_expression (h : m ≤ n) :
    Solid Token.endsOperand (Translation.expression u m) (Translation.expression u n) := by
  induction m generalizing n with
  | zero =>
    rw [Translation.expression_eq, Translation.expression_eq u n]
    exact solid_sumOf (solid_factor (by nofun) h)
  | succ m ih =>
    obtain ⟨n, rfl⟩ := Nat.exists_eq_add_of_le' (Nat.one_le_of_lt h)
    rw [Translation.expression_eq, Translation.expression_eq]
    refine solid_sumOf (solid_factor (fun inner hinner => ?_) h)
    cases hinner
    exact ⟨_, rfl, (ih (Nat.le_of_succ_le_succ h)).inside⟩

end GeoFilter
