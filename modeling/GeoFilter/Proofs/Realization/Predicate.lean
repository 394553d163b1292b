import GeoFilter.Proofs.Realization.Expression
import GeoFilter.Proofs.Translation.Predicate

/-!
# Filters realized

A filter leaves one predicate on every settled stack.  The members of a list and the identifiers of a set
rest on something with another tag; a predicate over operands finds them on top.
-/

namespace GeoFilter

open Assembly (run step steps baseStep)
open Phrase (Quiet)
open ResultsStack (TopFree Settled IsMember)

variable {u : Setting} {s : ResultsStack}

/-! ### Entries -/

def HoldsPredicate (p : Predicate) (e : Entry) : Prop :=
  e.node.predicate? = some p ∧ e.production.isLoose = false

theorem HoldsPredicate.settled {p : Predicate} {e : Entry} (h : HoldsPredicate p e) : Settled (e :: s) :=
  ResultsStack.settled_cons.mpr h.2

def HoldsId (id : String) (e : Entry) : Prop :=
  e.production = .featureId ∧ e.node = .raw id

/-- An operand that stands second in a spatial relation: in the base dialect a geometry literal. -/
def HoldsSecond (u : Setting) (x : Expression) (e : Entry) : Prop :=
  HoldsOperand x e ∧
    (u.dialect = .cql → ∃ g, x = .literal (.geometry g) ∧ e.node = .literal (.geometry g))

theorem HoldsNumber.number {n : Number} {e : Entry} (h : HoldsNumber n e) : e.node.number? = some n := by
  rw [h.1]
  rfl

/-! ### Steps -/

theorem run_featureIds {ids : List String} {es : List Entry} (hes : List.Forall₂ HoldsId ids es)
    (hids : ids ≠ []) (hs : s.Settled) (token : SourceToken) :
    run (step u.dialect u.kit ⟨.featureIdPredicate, [token]⟩) (es.reverse ++ s) =
      .ok ((), ⟨.featureIdPredicate, .predicate (u.kit.factory.featureIds ids), token⟩ :: s) := by
  have hrun : List.Forall₂ (IsMember (· == .featureId) Node.raw?) ids es :=
    hes.imp fun id e h => ⟨by rw [h.1]; rfl, by rw [h.2]; rfl⟩
  have hfree : s.TopFree (· == .featureId) :=
    hs.mono fun p hp => by rw [beq_iff_eq.mp hp]; rfl
  rw [Assembly.run_step_shared rfl]
  simp only [baseStep, Assembly.featureIds, Assembly.run_bind, Assembly.run_drainRun hrun hfree,
    Assembly.run_nonEmpty hids, Assembly.run_made, Assembly.run_pushPredicate]

theorem run_spatial {x y : Expression} {ex ey : Entry} (hx : HoldsOperand x ex) (hy : HoldsSecond u y ey)
    (op : SpatialOp) (token : SourceToken) :
    run (step u.dialect u.kit ⟨.spatial op, [token]⟩) (ey :: ex :: s) =
      .ok ((), ⟨.spatial op,
        .predicate (u.kit.factory.spatial op x (Translation.spatialRight u y)), token⟩ :: s) := by
  unfold Translation.spatialRight
  cases hu : u.dialect with
  | cql =>
    obtain ⟨g, rfl, hnode⟩ := hy.2 hu
    have hright := run_popGeometryLiteral (s := ex :: s) ⟨hnode, hy.1.2⟩
    simp only [step, Assembly.hasProduction, baseStep, Assembly.spatial, Assembly.run_bind, hright,
      Assembly.run_made, Assembly.run_popExpression hx.1, Assembly.run_pushPredicate, if_true]
  | ecql =>
    simp only [step, Assembly.hasProduction, Assembly.extendedStep, Assembly.spatial, Assembly.run_bind,
      Assembly.run_popExpression hy.1.1, Assembly.run_made, Assembly.run_popExpression hx.1,
      Assembly.run_pushPredicate, if_true]

theorem run_bbox {left : Expression} {minX minY maxX maxY : Number} {e e₁ e₂ e₃ e₄ : Entry}
    (he : HoldsOperand left e) (h₁ : HoldsNumber minX e₁) (h₂ : HoldsNumber minY e₂)
    (h₃ : HoldsNumber maxX e₃) (h₄ : HoldsNumber maxY e₄) (token : SourceToken)
    (code : List SourceToken) :
    run (step u.dialect u.kit ⟨.bbox, token :: code⟩) (e₄ :: e₃ :: e₂ :: e₁ :: e :: s) =
      pushed (boxed u.kit left minX minY maxX maxY code.head?) fun p => ⟨.bbox, .predicate p, token⟩ :: s := by
  rw [Assembly.run_step_shared rfl]
  simp only [baseStep, Assembly.bbox, Assembly.run_bind, Assembly.run_popFloat h₄.number,
    Assembly.run_popFloat h₃.number, Assembly.run_popFloat h₂.number, Assembly.run_popFloat h₁.number,
    run_attachCode, boxed, rectangle]
  cases qualifiedByCode u.kit.resolver _ code.head? with
  | error finding => rfl
  | ok g => simp only [Assembly.run_popExpression he.1, Assembly.run_made, Assembly.run_pushPredicate, pushed]

theorem run_distance {left right : Expression} {d : Number} {e₁ e₂ e₃ : Entry}
    (h₁ : HoldsOperand left e₁) (h₂ : HoldsOperand right e₂) (h₃ : HoldsNumber d e₃) (op : DistanceOp)
    (token word : SourceToken) (words : List SourceToken) :
    run (step u.dialect u.kit ⟨.distance op, token :: word :: words⟩) (e₃ :: e₂ :: e₁ :: s) =
      pushed (distant u.kit.factory op left right d word words) fun p =>
        ⟨.distance op, .predicate p, token⟩ :: s := by
  rw [Assembly.run_step_shared rfl]
  simp only [baseStep, Assembly.distance, Assembly.run_bind, Assembly.run_orFind, distant]
  cases DistanceUnits.ofText? _ with
  | none => rfl
  | some units =>
    simp only [Assembly.run_popFloat h₃.number, Assembly.run_popExpression h₂.1,
      Assembly.run_popExpression h₁.1, Assembly.run_made, Assembly.run_pushPredicate, pushed]

theorem run_relate {left right : Expression} {e₁ e₂ : Entry} (h₁ : HoldsOperand left e₁)
    (h₂ : HoldsOperand right e₂) (token : SourceToken) :
    run (step u.dialect u.kit ⟨.relate, [token]⟩) (e₂ :: e₁ :: s) =
      .ok ((), ⟨.relate, .predicate (related u.kit.factory "relate" [left, right]), token⟩ :: s) := by
  rw [Assembly.run_step_shared rfl]
  simp only [baseStep, Assembly.relate, Assembly.relateWith, Assembly.run_bind,
    Assembly.run_popExpression h₂.1, Assembly.run_popExpression h₁.1, Assembly.run_made,
    Assembly.run_pushPredicate, related]
  rfl

def patternEntry (pattern : SourceToken) : Entry :=
  ⟨.de9imPattern, .raw pattern.text, pattern⟩

def textEntry (token : SourceToken) : Entry :=
  ⟨.stringLiteral, .literal (.string token.text), token⟩

theorem run_popText (expected : String) (token : SourceToken) :
    run (Assembly.popHolding expected Node.string?) (textEntry token :: s) =
      .ok ((token.text, textEntry token), s) :=
  Assembly.run_popHolding rfl

theorem run_de9imPattern (pattern : SourceToken) :
    run (step u.dialect u.kit ⟨.de9imPattern, [pattern]⟩) (textEntry pattern :: s) =
      pushed (de9imOf pattern) fun _ => patternEntry pattern :: s := by
  rw [Assembly.run_step_shared rfl]
  simp only [baseStep, Assembly.de9imPattern, Assembly.run_bind, run_popText, de9imOf]
  split <;> rfl

theorem run_relatePattern {left right : Expression} {e₁ e₂ : Entry} (h₁ : HoldsOperand left e₁)
    (h₂ : HoldsOperand right e₂) (pattern token : SourceToken) :
    run (step u.dialect u.kit ⟨.relatePattern, [token]⟩) (patternEntry pattern :: e₂ :: e₁ :: s) =
      .ok ((), ⟨.relatePattern, .predicate (related u.kit.factory "relatePattern"
        [left, right, u.kit.factory.literal (.string pattern.text)]), token⟩ :: s) := by
  have hpop : run (Assembly.popRaw .de9imPattern) (patternEntry pattern :: e₂ :: e₁ :: s) =
      .ok (pattern.text, e₂ :: e₁ :: s) := Assembly.run_popRaw _ _ _
  rw [Assembly.run_step_shared rfl]
  simp only [baseStep, Assembly.relatePattern, Assembly.relateWith, Assembly.run_bind, hpop,
    Assembly.run_popExpression h₂.1, Assembly.run_popExpression h₁.1, Assembly.run_made,
    Assembly.run_pure, Assembly.run_pushPredicate, related]

theorem run_inList {left : Expression} {candidates : List Expression} {e : Entry} {es : List Entry}
    (he : HoldsOperand left e) (hes : List.Forall₂ (HoldsTagged .inListMember) candidates es)
    (hcandidates : candidates ≠ []) {production : Production} {negated : Bool}
    (hproduction : production = if negated then .notInPredicate else .inPredicate)
    (token : SourceToken) :
    run (step u.dialect u.kit ⟨production, [token]⟩) (es.reverse ++ e :: s) =
      .ok ((), ⟨production, .predicate
        (negatedWhen u.kit.factory negated (anyOf u.kit.factory left candidates)), token⟩ :: s) := by
  have hrun : List.Forall₂ (IsMember (· == .inListMember) Node.expression?) candidates es :=
    hes.imp fun x e h => ⟨by rw [h.2]; rfl, h.1⟩
  have hfree : TopFree (· == .inListMember) (e :: s) :=
    ResultsStack.topFree_cons.mpr (beq_eq_false_iff_ne.mpr (Production.ne_inListMember_of_isOperand he.2))
  have hwork : run (Assembly.inList u.kit.factory production negated token) (es.reverse ++ e :: s) =
      .ok ((), ⟨production, .predicate
        (negatedWhen u.kit.factory negated (anyOf u.kit.factory left candidates)), token⟩ :: s) := by
    simp only [Assembly.inList, Assembly.run_bind, Assembly.run_drainRun hrun hfree,
      Assembly.run_nonEmpty hcandidates, Assembly.run_popExpression he.1, Assembly.run_equalities,
      Assembly.run_made, Assembly.run_negatedIf, Assembly.run_pushPredicate, negatedWhen, anyOf]
  subst hproduction
  cases negated with
  | false => exact (Assembly.run_step_shared rfl token []).trans hwork
  | true => exact (Assembly.run_step_shared rfl token []).trans hwork

theorem run_like {left : Expression} {e : Entry} (he : HoldsOperand left e) (pattern : SourceToken)
    {production : Production} {ignoringCase negated : Bool}
    (hproduction : production = match ignoringCase, negated with
      | false, false => .like | false, true => .notLike | true, false => .ilike | true, true => .notILike)
    (token : SourceToken) :
    run (step u.dialect u.kit ⟨production, [token]⟩) (textEntry pattern :: e :: s) =
      .ok ((), ⟨production, .predicate (negatedWhen u.kit.factory negated
        (u.kit.factory.like left pattern.text ignoringCase)), token⟩ :: s) := by
  have hwork : run (Assembly.like u.kit.factory production ignoringCase negated token)
      (textEntry pattern :: e :: s) =
      .ok ((), ⟨production, .predicate (negatedWhen u.kit.factory negated
        (u.kit.factory.like left pattern.text ignoringCase)), token⟩ :: s) := by
    simp only [Assembly.like, Assembly.run_bind, run_popText, Assembly.run_popExpression he.1,
      Assembly.run_made, Assembly.run_negatedIf, Assembly.run_pushPredicate, negatedWhen]
  subst hproduction
  cases ignoringCase <;> cases negated <;> exact (Assembly.run_step_shared rfl token []).trans hwork

theorem run_between {left lower upper : Expression} {e e₁ e₂ : Entry} (he : HoldsOperand left e)
    (h₁ : HoldsOperand lower e₁) (h₂ : HoldsOperand upper e₂) {production : Production} {negated : Bool}
    (hproduction : production = if negated then .notBetween else .between) (token : SourceToken) :
    run (step u.dialect u.kit ⟨production, [token]⟩) (e₂ :: e₁ :: e :: s) =
      .ok ((), ⟨production, .predicate (negatedWhen u.kit.factory negated
        (u.kit.factory.between left lower upper)), token⟩ :: s) := by
  have hwork : run (Assembly.between u.kit.factory production negated token) (e₂ :: e₁ :: e :: s) =
      .ok ((), ⟨production, .predicate (negatedWhen u.kit.factory negated
        (u.kit.factory.between left lower upper)), token⟩ :: s) := by
    simp only [Assembly.between, Assembly.run_bind, Assembly.run_popExpression h₂.1,
      Assembly.run_popExpression h₁.1, Assembly.run_popExpression he.1, Assembly.run_made,
      Assembly.run_negatedIf, Assembly.run_pushPredicate, negatedWhen]
  subst hproduction
  cases negated <;> exact (Assembly.run_step_shared rfl token []).trans hwork

theorem run_isNull {left : Expression} {e : Entry} (he : HoldsOperand left e) {production : Production}
    {negated : Bool} (hproduction : production = if negated then .isNotNull else .isNull)
    (token : SourceToken) :
    run (step u.dialect u.kit ⟨production, [token]⟩) (e :: s) =
      .ok ((), ⟨production, .predicate (negatedWhen u.kit.factory negated
        (u.kit.factory.isNull left)), token⟩ :: s) := by
  have hwork : run (Assembly.isNull u.kit.factory production negated token) (e :: s) =
      .ok ((), ⟨production, .predicate (negatedWhen u.kit.factory negated
        (u.kit.factory.isNull left)), token⟩ :: s) := by
    simp only [Assembly.isNull, Assembly.run_bind, Assembly.run_popExpression he.1, Assembly.run_made,
      Assembly.run_negatedIf, Assembly.run_pushPredicate, negatedWhen]
  subst hproduction
  cases negated <;> exact (Assembly.run_step_shared rfl token []).trans hwork

theorem run_comparison {x y : Expression} {ex ey : Entry} (hx : HoldsOperand x ex) (hy : HoldsOperand y ey)
    (op : ComparisonOp) (token : SourceToken) :
    run (step u.dialect u.kit ⟨.comparison op, [token]⟩) (ey :: ex :: s) =
      .ok ((), ⟨.comparison op, .predicate (u.kit.factory.compare op x y), token⟩ :: s) := by
  rw [Assembly.run_step_shared rfl]
  simp only [baseStep, Assembly.run_bind, Assembly.run_popExpression hx.1,
    Assembly.run_popExpression hy.1, Assembly.run_made, Assembly.run_pushPredicate]

theorem run_connect {p q : Predicate} {e e' : Entry} (hp : HoldsPredicate p e) (hq : HoldsPredicate q e')
    (production : Production) (maker : TreeFactory.Maker) (make : Predicate → Predicate → Predicate)
    (token : SourceToken) :
    run (Assembly.connect production maker make token) (e' :: e :: s) =
      .ok ((), ⟨production, .predicate (make p q), token⟩ :: s) := by
  simp only [Assembly.connect, Assembly.run_bind, Assembly.run_popPredicate hq.1,
    Assembly.run_popPredicate hp.1, Assembly.run_made, Assembly.run_pushPredicate]

theorem run_not {p : Predicate} {e : Entry} (hp : HoldsPredicate p e) (token : SourceToken) :
    run (step u.dialect u.kit ⟨.not, [token]⟩) (e :: s) =
      .ok ((), ⟨.not, .predicate (u.kit.factory.not p), token⟩ :: s) := by
  rw [Assembly.run_step_shared rfl]
  simp only [baseStep, Assembly.run_bind, Assembly.run_popPredicate hp.1, Assembly.run_made,
    Assembly.run_pushPredicate]

/-! ### Operands -/

theorem realizes_operand (levels : Nat) (hs : s.Settled) :
    Realizes u (Grammar.operand u.dialect levels) s (Translation.operand u levels)
      (Pushes HoldsOperand s) := by
  unfold Grammar.operand Translation.operand
  cases hu : u.dialect with
  | cql => exact realizes_propertyName
  | ecql =>
    have hexpression := realizes_expression (u := u) levels hs
    rwa [hu] at hexpression

theorem realizes_secondLiteral {p : Phrase Unit} {c : Translation GeometryLiteral}
    (h : Realizes u p s c (Pushes HoldsLiteral s)) :
    Realizes u p s (Translation.ofGeometry c) (Pushes (HoldsSecond u) s) :=
  .map_right (h.mono fun _ g _ ⟨e, he, hs'⟩ => ⟨e, ⟨he.operand, fun _ => ⟨g, rfl, he.1⟩⟩, hs'⟩)

theorem realizes_geometryOperand (levels : Nat) (hs : s.Settled) :
    Realizes u (Grammar.geometryOperand u.dialect levels) s (Translation.geometryOperand u levels)
      (Pushes (HoldsSecond u) s) := by
  unfold Grammar.geometryOperand Translation.geometryOperand
  cases hu : u.dialect with
  | ecql =>
    have hexpression := realizes_expression (u := u) levels hs
    rw [hu] at hexpression
    refine hexpression.mono fun _ x s' ⟨e, he, hs'⟩ => ⟨e, ⟨he, fun hcql => ?_⟩, hs'⟩
    rw [hu] at hcql
    cases hcql
  | cql =>
    have hsrid := realizes_sridLiteral (u := u) levels hs
    have henvelope := realizes_envelope (u := u) (s := s)
    rw [hu] at hsrid henvelope
    refine .read_bind .peek fun token? => ?_
    cases token?.bind Token.keyword? with
    | none => exact .unexpected _
    | some keyword =>
      cases keyword with
      | SRID => exact realizes_secondLiteral hsrid
      | ENVELOPE => exact realizes_secondLiteral henvelope
      | shape shape =>
        exact .map_right ((realizes_geometryLiteral levels hs).mono fun _ g _ ⟨e, he, hs'⟩ =>
          ⟨e, ⟨he.operand, fun _ => ⟨_, rfl, he.1⟩⟩, hs'⟩)
      | _ => exact .unexpected _

/-! ### Predicates that are written as calls -/

theorem run_featureId (id : SourceToken) :
    run (step u.dialect u.kit ⟨.featureId, [id]⟩) s = .ok ((), ⟨.featureId, .raw id.text, id⟩ :: s) := by
  rw [Assembly.run_step_shared rfl]
  rfl

theorem realizes_featureId :
    Realizes u Grammar.featureId s (Translation.featureId u) (Pushes HoldsId s) :=
  .read_bind (.expectIf _ _) fun id => .reduce_ok (run_featureId id) ⟨_, ⟨rfl, rfl⟩, rfl⟩

theorem realizes_featureIds (hs : s.Settled) :
    Realizes u Grammar.featureIds s (Translation.featureIds u) (Pushes HoldsPredicate s) := by
  refine .read_bind (.next _) fun keyword => ?_
  refine (Realizes.parenthesized (.commaSeparated_always fun _ =>
    realizes_featureId)).bind fun _ ids s' hids => ?_
  obtain ⟨es, hes, rfl⟩ := hids
  exact .reduce_ok (run_featureIds hes (List.cons_ne_nil _ _) hs keyword) ⟨_, ⟨rfl, rfl⟩, rfl⟩

theorem realizes_spatial (levels : Nat) (op : SpatialOp) (hs : s.Settled) :
    Realizes u (Grammar.spatial u.dialect levels op) s (Translation.spatial u levels op)
      (Pushes HoldsPredicate s) := by
  refine .read_bind (.next _) fun keyword => .read_bind (.require _) fun _ => ?_
  refine (realizes_operand levels hs).bind fun _ left s' h => ?_
  obtain ⟨e, he, rfl⟩ := h
  refine .read_bind (.require _) fun _ => ?_
  refine (realizes_geometryOperand levels he.settled).bind fun _ right s' h => ?_
  obtain ⟨e', he', rfl⟩ := h
  exact .read_bind (.require _) fun _ =>
    .reduce_ok (run_spatial he he' op keyword) ⟨_, ⟨rfl, rfl⟩, rfl⟩

theorem realizes_commaBound :
    Realizes u Grammar.commaBound s (Translation.commaBound u) (Pushes HoldsNumber s) :=
  .read_bind (.require _) fun _ => realizes_signedLiteral

theorem realizes_bbox (levels : Nat) (hs : s.Settled) :
    Realizes u (Grammar.bbox u.dialect levels) s (Translation.bbox u levels)
      (Pushes HoldsPredicate s) := by
  refine .read_bind (.next _) fun keyword => .read_bind (.require _) fun _ => ?_
  refine (realizes_operand levels hs).bind fun _ left s' h => ?_
  obtain ⟨e, he, rfl⟩ := h
  refine realizes_commaBound.bind fun _ minX s' h => ?_
  obtain ⟨e₁, h₁, rfl⟩ := h
  refine realizes_commaBound.bind fun _ minY s' h => ?_
  obtain ⟨e₂, h₂, rfl⟩ := h
  refine realizes_commaBound.bind fun _ maxX s' h => ?_
  obtain ⟨e₃, h₃, rfl⟩ := h
  refine realizes_commaBound.bind fun _ maxY s' h => ?_
  obtain ⟨e₄, h₄, rfl⟩ := h
  refine .read_bind quiet_referenceSystem fun code => .read_bind (.require _) fun _ => ?_
  exact .reduce (run_bbox he h₁ h₂ h₃ h₄ keyword code) fun _ _ => ⟨_, ⟨rfl, rfl⟩, rfl⟩

theorem quiet_unitWords : Grammar.unitWords.Quiet := by
  intro input
  unfold Grammar.unitWords
  split
  · exact Quiet.unexpected _ _
  · rfl

theorem unitWords_ne_nil (input : List Lexeme) (words : List SourceToken) (rest : List Lexeme)
    (h : (Grammar.unitWords input).outcome = .ok (words, rest)) : words ≠ [] := by
  unfold Grammar.unitWords at h
  split at h
  case h_1 => cases input <;> cases h
  case h_2 hsome _ =>
    cases h
    intro hnil
    exact hsome hnil

theorem realizes_distance (levels : Nat) (op : DistanceOp) (hs : s.Settled) :
    Realizes u (Grammar.distance u.dialect levels op) s (Translation.distance u levels op)
      (Pushes HoldsPredicate s) := by
  refine .read_bind (.next _) fun keyword => .read_bind (.require _) fun _ => ?_
  refine (realizes_operand levels hs).bind fun _ left s' h => ?_
  obtain ⟨e₁, h₁, rfl⟩ := h
  refine .read_bind (.require _) fun _ => ?_
  refine (realizes_geometryOperand levels h₁.settled).bind fun _ right s' h => ?_
  obtain ⟨e₂, h₂, rfl⟩ := h
  refine .read_bind (.require _) fun _ => realizes_signedLiteral.bind fun _ d s' h => ?_
  obtain ⟨e₃, h₃, rfl⟩ := h
  refine .read_bind (.require _) fun _ => ?_
  refine .read_bind_of quiet_unitWords unitWords_ne_nil fun words hwords => ?_
  refine .read_bind (.require _) fun _ => ?_
  cases words with
  | nil => exact absurd rfl hwords
  | cons word words =>
    exact .reduce (run_distance h₁ h₂.1 h₃ op keyword word words) fun _ _ => ⟨_, ⟨rfl, rfl⟩, rfl⟩

theorem quiet_de9imPattern : Grammar.de9imPattern.Quiet := by
  refine .bind (.acceptIf _) fun pattern? => ?_
  cases pattern? with
  | some pattern => exact .pure _
  | none =>
    refine .bind (.here _) fun start input => ?_
    cases Grammar.barePattern none input with
    | error fault => rfl
    | ok bare =>
      simp only
      split
      · exact Quiet.unexpected _ _
      · rfl

theorem realizes_text (token : SourceToken) :
    Realizes u (Phrase.reduce .stringLiteral [token]) s
      (Translation.complete u .stringLiteral [token] (.ok ())) fun _ _ s' => s' = textEntry token :: s :=
  .reduce_ok (run_stringLiteral token) rfl

theorem realizes_relate (levels : Nat) (hs : s.Settled) :
    Realizes u (Grammar.relate u.dialect levels) s (Translation.relate u levels)
      (Pushes HoldsPredicate s) := by
  refine .read_bind (.next _) fun keyword => .read_bind (.require _) fun _ => ?_
  refine (realizes_operand levels hs).bind fun _ left s' h => ?_
  obtain ⟨e₁, h₁, rfl⟩ := h
  refine .read_bind (.require _) fun _ => ?_
  refine (realizes_geometryOperand levels h₁.settled).bind fun _ right s' h => ?_
  obtain ⟨e₂, h₂, rfl⟩ := h
  refine .read_bind (.accept _) fun comma? => ?_
  cases comma? with
  | none =>
    exact .read_bind (.require _) fun _ =>
      .reduce_ok (run_relate h₁ h₂.1 keyword) ⟨_, ⟨rfl, rfl⟩, rfl⟩
  | some _ =>
    refine .read_bind quiet_de9imPattern fun pattern => (realizes_text pattern).bind fun _ _ s' h => ?_
    subst h
    refine (Realizes.reduce (run_de9imPattern pattern)
      (R := fun _ _ s' => s' = patternEntry pattern :: e₂ :: e₁ :: s) fun _ _ => rfl).bind
      fun _ _ s' h => ?_
    subst h
    exact .read_bind (.require _) fun _ =>
      .reduce_ok (run_relatePattern h₁ h₂.1 pattern keyword) ⟨_, ⟨rfl, rfl⟩, rfl⟩

/-! ### Tests of a value -/

theorem realizes_listMember (levels : Nat) (hs : s.Settled) :
    Realizes u (Grammar.listMember u.dialect levels) s (Translation.listMember u levels)
      (Pushes (HoldsTagged .inListMember) s) := by
  refine .read_bind (.here _) fun token => (realizes_expression levels hs).bind fun _ x s' hx => ?_
  obtain ⟨e, he, rfl⟩ := hx
  exact .reduce_ok (run_tagged (.inr rfl) e token)
    ⟨{ e with production := .inListMember }, ⟨he.1, rfl⟩, rfl⟩

theorem realizes_inList {left : Expression} {e : Entry} (he : HoldsOperand left e) (levels : Nat)
    {production : Production} (negated : Bool)
    (hproduction : production = if negated then .notInPredicate else .inPredicate)
    (token : SourceToken) :
    Realizes u (Grammar.inList u.dialect levels production token) (e :: s)
      (Translation.inList u levels production negated left token) (Pushes HoldsPredicate s) := by
  refine (Realizes.parenthesized (.commaSeparated (fun _ => realizes_listMember levels)
    (fun _ _ _ _ he => he.settled rfl) he.settled)).bind fun _ xs s' hxs => ?_
  obtain ⟨es, hes, rfl⟩ := hxs
  refine .reduce_ok (run_inList he hes (List.cons_ne_nil _ _) hproduction token) ⟨_, ⟨rfl, ?_⟩, rfl⟩
  cases negated <;> rw [hproduction] <;> rfl

theorem realizes_like {left : Expression} {e : Entry} (he : HoldsOperand left e) {production : Production}
    (ignoringCase negated : Bool)
    (hproduction : production = match ignoringCase, negated with
      | false, false => .like | false, true => .notLike | true, false => .ilike | true, true => .notILike)
    (token : SourceToken) :
    Realizes u (Grammar.like production token) (e :: s)
      (Translation.like u production ignoringCase negated left token) (Pushes HoldsPredicate s) := by
  refine .read_bind (.expectIf _ _) fun pattern => (realizes_text pattern).bind fun _ _ s' h => ?_
  subst h
  refine .reduce_ok (run_like he pattern hproduction token) ⟨_, ⟨rfl, ?_⟩, rfl⟩
  cases ignoringCase <;> cases negated <;> rw [hproduction] <;> rfl

theorem realizes_between {left : Expression} {e : Entry} (he : HoldsOperand left e) (levels : Nat)
    {production : Production} (negated : Bool)
    (hproduction : production = if negated then .notBetween else .between) (token : SourceToken) :
    Realizes u (Grammar.between u.dialect levels production token) (e :: s)
      (Translation.between u levels production negated left token) (Pushes HoldsPredicate s) := by
  refine (realizes_expression levels he.settled).bind fun _ lower s' h => ?_
  obtain ⟨e₁, h₁, rfl⟩ := h
  refine .read_bind (.expectWord _) fun _ => (realizes_expression levels h₁.settled).bind
    fun _ upper s' h => ?_
  obtain ⟨e₂, h₂, rfl⟩ := h
  refine .reduce_ok (run_between he h₁ h₂ hproduction token) ⟨_, ⟨rfl, ?_⟩, rfl⟩
  cases negated <;> rw [hproduction] <;> rfl

theorem realizes_isNull {left : Expression} {e : Entry} (he : HoldsOperand left e) (token : SourceToken) :
    Realizes u (Grammar.isNull token) (e :: s) (Translation.isNull u left token)
      (Pushes HoldsPredicate s) := by
  refine .read_bind (.acceptWord _) fun not? => .read_bind (.expectWord _) fun _ => ?_
  refine .reduce_ok (run_isNull he rfl token) ⟨_, ⟨rfl, ?_⟩, rfl⟩
  cases not? <;> rfl

theorem realizes_negatedTest {left : Expression} {e : Entry} (he : HoldsOperand left e) (levels : Nat)
    (token : SourceToken) :
    Realizes u (Grammar.negatedTest u.dialect levels token) (e :: s)
      (Translation.negatedTest u levels left token) (Pushes HoldsPredicate s) := by
  refine .read_bind .peek fun token? => ?_
  cases token?.bind Token.keyword? with
  | none => exact .unexpected _
  | some keyword =>
    cases keyword with
    | IN => exact .read_bind (.next _) fun _ => realizes_inList he levels true rfl token
    | LIKE => exact .read_bind (.next _) fun _ => realizes_like he false true rfl token
    | ILIKE => exact .read_bind (.next _) fun _ => realizes_like he true true rfl token
    | BETWEEN => exact .read_bind (.next _) fun _ => realizes_between he levels true rfl token
    | _ => exact .unexpected _

theorem realizes_keywordTest {left : Expression} {e : Entry} (he : HoldsOperand left e) (levels : Nat)
    (keyword? : Option Keyword) :
    Realizes u (Grammar.keywordTest u.dialect levels keyword?) (e :: s)
      (Translation.keywordTest u levels left keyword?) (Pushes HoldsPredicate s) := by
  cases keyword? with
  | none => exact .unexpected _
  | some keyword =>
    cases keyword with
    | NOT => exact .read_bind (.next _) fun token => realizes_negatedTest he levels token
    | IN => exact .read_bind (.next _) fun token => realizes_inList he levels false rfl token
    | LIKE => exact .read_bind (.next _) fun token => realizes_like he false false rfl token
    | ILIKE => exact .read_bind (.next _) fun token => realizes_like he true false rfl token
    | BETWEEN => exact .read_bind (.next _) fun token => realizes_between he levels false rfl token
    | IS => exact .read_bind (.next _) fun token => realizes_isNull he token
    | _ => exact .unexpected _

theorem realizes_valueTest (levels : Nat) (hs : s.Settled) :
    Realizes u (Grammar.valueTest u.dialect levels) s (Translation.valueTest u levels)
      (Pushes HoldsPredicate s) := by
  refine (realizes_operand levels hs).bind fun _ left s' h => ?_
  obtain ⟨e, he, rfl⟩ := h
  refine .read_bind .peek fun token? => ?_
  cases token? with
  | none => exact .unexpected _
  | some token =>
    dsimp only
    cases Grammar.comparisonOperator? u.dialect token with
    | none => exact realizes_keywordTest he levels token.keyword?
    | some op =>
      refine .read_bind (.next _) fun operator => ?_
      refine (realizes_expression levels he.settled).bind fun _ right s' h => ?_
      obtain ⟨e', he', rfl⟩ := h
      exact .reduce_ok (run_comparison he he' op operator) ⟨_, ⟨rfl, rfl⟩, rfl⟩

/-! ### Filters -/

theorem realizes_simplePredicate (levels : Nat) (hs : s.Settled) (keyword? : Option Keyword)
    (called : Bool) :
    Realizes u (Grammar.simplePredicate u.dialect levels keyword? called) s
      (Translation.simplePredicate u levels keyword? called) (Pushes HoldsPredicate s) := by
  have hvalue := realizes_valueTest (u := u) levels hs
  cases keyword? with
  | none => exact hvalue
  | some keyword =>
    cases keyword with
    | INCLUDE =>
      refine .read_bind (.next _) fun token =>
        .reduce_ok (Assembly.run_step_shared rfl token []) ⟨_, ⟨rfl, rfl⟩, rfl⟩
    | EXCLUDE =>
      refine .read_bind (.next _) fun token =>
        .reduce_ok (Assembly.run_step_shared rfl token []) ⟨_, ⟨rfl, rfl⟩, rfl⟩
    | relation op => cases called with
      | false => exact hvalue
      | true => exact realizes_spatial levels op hs
    | ID => cases called with
      | false => exact hvalue
      | true => exact realizes_featureIds hs
    | IN => cases called with
      | false => exact hvalue
      | true =>
        unfold Grammar.simplePredicate Translation.simplePredicate
        cases hu : u.dialect with
        | ecql => exact realizes_featureIds hs
        | cql =>
          rw [hu] at hvalue
          exact hvalue
    | BBOX => cases called with
      | false => exact hvalue
      | true => exact realizes_bbox levels hs
    | DWITHIN => cases called with
      | false => exact hvalue
      | true => exact realizes_distance levels .dwithin hs
    | BEYOND => cases called with
      | false => exact hvalue
      | true => exact realizes_distance levels .beyond hs
    | RELATE => cases called with
      | false => exact hvalue
      | true => exact realizes_relate levels hs
    | _ => exact hvalue

theorem realizes_primary {group? : Option (Phrase Unit)} {direct? : Option (Translation Predicate)}
    (hgroup : RealizesInner u HoldsPredicate group? direct?) (levels : Nat) (hs : s.Settled) :
    Realizes u (Grammar.primary u.dialect levels group?) s (Translation.primary u levels direct?)
      (Pushes HoldsPredicate s) := by
  refine .read_bind .peek fun token? => ?_
  cases token? with
  | none => exact .unexpected _
  | some token =>
    dsimp only
    cases Grammar.closingSign? u.dialect token with
    | none =>
      exact .read_bind (.bind .peekSecond fun _ => .pure _) fun called =>
        realizes_simplePredicate levels hs token.keyword? called
    | some closing =>
      refine .read_bind (.next _) fun opener => ?_
      exact (Realizes.nested hgroup hs opener).bind fun _ _ _ h =>
        .map_right (.read (.require _) fun _ => h)

theorem realizes_joined {phrase : Phrase Unit} {item : Translation Predicate}
    (hitem : ∀ s : ResultsStack, s.Settled → Realizes u phrase s item (Pushes HoldsPredicate s))
    (word : String) {production : Production} (hproduction : production.isLoose = false)
    {combine : Predicate → Predicate → Predicate}
    (hstep : ∀ (p q : Predicate) (e e' : Entry) (s : ResultsStack) (token : SourceToken),
      HoldsPredicate p e → HoldsPredicate q e' →
      run (step u.dialect u.kit ⟨production, [token]⟩) (e' :: e :: s) =
        .ok ((), ⟨production, .predicate (combine p q), token⟩ :: s)) (hs : s.Settled) :
    Realizes u (Grammar.joined word production phrase) s
      (Translation.joined u word production combine item) (Pushes HoldsPredicate s) := by
  refine (hitem s hs).bind fun _ p s' hp => ?_
  -- After every word one predicate stands for all that was read so far.
  have hfirst : Pushes HoldsPredicate s () ([].foldl combine p) s' := hp
  refine .map_right (Realizes.repeatAfter
    (I := fun done => Pushes HoldsPredicate s () (done.foldl combine p)) (.acceptWord word) ?_ hfirst)
  rintro token done s' ⟨e, he, rfl⟩
  refine (hitem _ he.settled).bind fun _ q s' hq => ?_
  obtain ⟨e', he', rfl⟩ := hq
  refine .reduce_ok (hstep _ q e e' s token he he') ⟨_, ⟨?_, hproduction⟩, rfl⟩
  simp [Node.predicate?]

theorem realizes_disjunctionOf {phrase : Phrase Unit} {item : Translation Predicate}
    (hitem : ∀ s : ResultsStack, s.Settled → Realizes u phrase s item (Pushes HoldsPredicate s))
    (hs : s.Settled) :
    Realizes u (Grammar.disjunctionOf phrase) s (Translation.disjunctionOf u item)
      (Pushes HoldsPredicate s) := by
  have hand (s : ResultsStack) (hs : s.Settled) : Realizes u (Grammar.joined "AND" .and phrase) s
      (Translation.joined u "AND" .and u.kit.factory.and item) (Pushes HoldsPredicate s) :=
    realizes_joined hitem "AND" rfl (fun p q e e' s token hp hq =>
      (Assembly.run_step_shared rfl token []).trans
        (run_connect hp hq .and .and u.kit.factory.and token)) hs
  exact realizes_joined hand "OR" rfl (fun p q e e' s token hp hq =>
    (Assembly.run_step_shared rfl token []).trans
      (run_connect hp hq .or .or u.kit.factory.or token)) hs

theorem realizesInner_disjunctionOf {inner? : Option (Phrase Unit)}
    {direct? : Option (Translation Predicate)} (hinner : RealizesInner u HoldsPredicate inner? direct?) :
    RealizesInner u HoldsPredicate (inner?.map Grammar.disjunctionOf)
      (direct?.map (Translation.disjunctionOf u)) := by
  cases hinner with
  | none => exact .none
  | some h => exact .some fun _ hs => realizes_disjunctionOf h hs

theorem realizes_negationWith {inner? : Option (Phrase Unit)}
    {direct? : Option (Translation Predicate)} (hinner : RealizesInner u HoldsPredicate inner? direct?)
    (levels : Nat) (hs : s.Settled) :
    Realizes u (Grammar.negationWith u.dialect levels inner?) s
      (Translation.negationWith u levels direct?) (Pushes HoldsPredicate s) := by
  refine .read_bind (.acceptWord _) fun not? => ?_
  cases not? with
  | none => exact realizes_primary (realizesInner_disjunctionOf hinner) levels hs
  | some token =>
    refine (Realizes.nested hinner hs token).bind fun _ p s' hp => ?_
    obtain ⟨e, he, rfl⟩ := hp
    exact .reduce_ok (run_not he token) ⟨_, ⟨rfl, rfl⟩, rfl⟩

theorem realizes_negation (levels : Nat) (hs : s.Settled) :
    Realizes u (Grammar.negation u.dialect levels) s (Translation.negation u levels)
      (Pushes HoldsPredicate s) := by
  induction levels generalizing s with
  | zero => exact realizes_negationWith .none 0 hs
  | succ levels ih => exact realizes_negationWith (.some fun _ hs => ih hs) (levels + 1) hs

/-- With the given number of levels left for nesting, a filter leaves one predicate. -/
theorem realizes_filter (levels : Nat) (hs : s.Settled) :
    Realizes u (Grammar.filter u.dialect levels) s (Translation.filter u levels)
      (Pushes HoldsPredicate s) :=
  realizes_disjunctionOf (fun _ hs => realizes_negation levels hs) hs

end GeoFilter
