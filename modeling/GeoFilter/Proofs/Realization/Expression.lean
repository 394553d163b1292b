import GeoFilter.Proofs.Realization.Geometry
import GeoFilter.Proofs.Translation.Expression

/-!
# Expressions realized

An expression leaves one operand on every settled stack.  The arguments of a function rest on the mark with
its name; an operator finds its two operands on top.
-/

namespace GeoFilter

open Assembly (run step steps baseStep)
open Phrase (Quiet)
open ResultsStack (TopFree Settled IsMember)

variable {u : Setting} {s : ResultsStack}

/-! ### Entries -/

def HoldsOperand (x : Expression) (e : Entry) : Prop :=
  e.node.expression? = some x ∧ e.production.isOperand = true

def HoldsTagged (tag : Production) (x : Expression) (e : Entry) : Prop :=
  e.node.expression? = some x ∧ e.production = tag

theorem HoldsOperand.settled {x : Expression} {e : Entry} (h : HoldsOperand x e) : Settled (e :: s) :=
  ResultsStack.settled_cons.mpr (Production.isLoose_of_isOperand h.2)

theorem HoldsNumber.operand {n : Number} {e : Entry} (h : HoldsNumber n e) :
    HoldsOperand (.literal (.number n)) e :=
  ⟨by rw [h.1]; rfl, h.2⟩

theorem HoldsLiteral.operand {g : GeometryLiteral} {e : Entry} (h : HoldsLiteral g e) :
    HoldsOperand (.literal (.geometry g)) e :=
  ⟨by rw [h.1]; rfl, h.2⟩

/-! ### Steps -/

theorem run_propertyName (name : SourceToken) (names : List SourceToken) :
    run (step u.dialect u.kit ⟨.propertyName, name :: names⟩) s =
      .ok ((), ⟨.propertyName,
        .expression (u.kit.factory.property ((name :: names).map SourceToken.text)), name⟩ :: s) := by
  rw [Assembly.run_step_shared rfl]
  rfl

theorem run_stringLiteral (token : SourceToken) :
    run (step u.dialect u.kit ⟨.stringLiteral, [token]⟩) s =
      .ok ((), ⟨.stringLiteral, .literal (.string token.text), token⟩ :: s) := by
  rw [Assembly.run_step_shared rfl]
  rfl

theorem run_booleanLiteral (token : SourceToken) :
    run (step u.dialect u.kit ⟨.booleanLiteral, [token]⟩) s =
      .ok ((), ⟨.booleanLiteral,
        .literal (.boolean (Text.sameIgnoringAsciiCase token.text "true")), token⟩ :: s) := by
  rw [Assembly.run_step_shared rfl]
  rfl

theorem run_tagged {tag : Production} (htag : tag = .functionArgument ∨ tag = .inListMember) (e : Entry)
    (token : SourceToken) :
    run (step u.dialect u.kit ⟨tag, [token]⟩) (e :: s) = .ok ((), { e with production := tag } :: s) := by
  rcases htag with rfl | rfl
  · rw [Assembly.run_step_shared rfl]
    exact Assembly.run_retag _
  · rw [Assembly.run_step_shared rfl]
    exact Assembly.run_retag _

def functionMark (name : SourceToken) : Entry :=
  ⟨.functionName, .raw name.text, name⟩

theorem run_functionName (name : SourceToken) :
    run (step u.dialect u.kit ⟨.functionName, [name]⟩) s = .ok ((), functionMark name :: s) := by
  rw [Assembly.run_step_shared rfl]
  rfl

theorem run_function {args : List Expression} {es : List Entry}
    (hes : List.Forall₂ (HoldsTagged .functionArgument) args es) (name : SourceToken) :
    run (step u.dialect u.kit ⟨.function, [name]⟩) (es.reverse ++ functionMark name :: s) =
      .ok ((), ⟨.function, .expression (u.kit.factory.function name.text args), name⟩ :: s) := by
  have hrun : List.Forall₂ (IsMember (· == .functionArgument) Node.expression?) args es :=
    hes.imp fun x e h => ⟨by rw [h.2]; rfl, h.1⟩
  have hargs := Assembly.run_drainRun hrun (s := functionMark name :: s)
    (ResultsStack.topFree_cons.mpr rfl)
  have hmark : run (Assembly.popRaw .functionName) (functionMark name :: s) = .ok (name.text, s) :=
    Assembly.run_popRaw _ _ _
  rw [Assembly.run_step_shared rfl]
  simp only [baseStep, Assembly.function, Assembly.run_bind, hargs, hmark, Assembly.run_made,
    Assembly.run_pushExpression]

theorem run_arithmetic {x y : Expression} {ex ey : Entry} (hx : HoldsOperand x ex)
    (hy : HoldsOperand y ey) (op : ArithmeticOp) (token : SourceToken) :
    run (step u.dialect u.kit ⟨.arithmetic op, [token]⟩) (ey :: ex :: s) =
      .ok ((), ⟨.arithmetic op, .expression (u.kit.factory.arithmetic op x y), token⟩ :: s) := by
  rw [Assembly.run_step_shared rfl]
  simp only [baseStep, Assembly.run_bind, Assembly.run_popExpression hx.1,
    Assembly.run_popExpression hy.1, Assembly.run_made, Assembly.run_pushExpression]

/-! ### Phrases -/

theorem realizes_propertyName :
    Realizes u Grammar.propertyName s (Translation.propertyName u) (Pushes HoldsOperand s) := by
  refine .read_bind (.expectIf _ _) fun first => ?_
  have hsome : ∀ input names rest,
      (Translation.attributeTail first input).outcome = .ok (names, rest) → names ≠ [] := by
    intro input names rest h
    have hnames : (Grammar.attributeNames first input).1 = names := congrArg Prod.fst (Except.ok.inj h)
    rw [← hnames]
    exact Translation.attributeNames_ne_nil first input
  refine .read_bind_of (p := Translation.attributeTail first) (fun _ => rfl) hsome fun names hnames => ?_
  cases names with
  | nil => exact absurd rfl hnames
  | cons name more => exact .reduce_ok (run_propertyName name more) ⟨_, ⟨rfl, rfl⟩, rfl⟩

theorem realizes_argument {inner? : Option (Phrase Unit)} {direct? : Option (Translation Expression)}
    (hinner : RealizesInner u HoldsOperand inner? direct?) (hs : s.Settled) :
    Realizes u (Grammar.argument inner?) s (Translation.argument u direct?)
      (Pushes (HoldsTagged .functionArgument) s) := by
  refine .read_bind (.here _) fun token => ?_
  refine (Realizes.nested hinner hs token).bind fun _ x s' hx => ?_
  obtain ⟨e, he, rfl⟩ := hx
  exact .reduce_ok (run_tagged (.inl rfl) e token) ⟨{ e with production := .functionArgument }, ⟨he.1, rfl⟩, rfl⟩

theorem HoldsTagged.settled {tag : Production} {x : Expression} {e : Entry} (h : HoldsTagged tag x e)
    (htag : tag.isLoose = false) : Settled (e :: s) :=
  ResultsStack.settled_cons.mpr (by rw [h.2, htag])

theorem realizes_functionCall {inner? : Option (Phrase Unit)}
    {direct? : Option (Translation Expression)} (hinner : RealizesInner u HoldsOperand inner? direct?) :
    Realizes u (Grammar.functionCall inner?) s (Translation.functionCall u direct?)
      (Pushes HoldsOperand s) := by
  refine .read_bind (.next _) fun name => .read_bind (.require _) fun _ => ?_
  refine (Realizes.reduce_ok (run_functionName name)
    (R := fun _ _ s' => s' = functionMark name :: s) rfl).bind fun _ _ s' hs' => ?_
  subst hs'
  refine .read_bind (.accept _) fun closing? => ?_
  cases closing? with
  | some _ => exact .reduce_ok (run_function .nil name) ⟨_, ⟨rfl, rfl⟩, rfl⟩
  | none =>
    refine (Realizes.commaSeparated (fun _ => realizes_argument hinner)
      (fun _ _ _ _ he => he.settled rfl) (ResultsStack.settled_cons.mpr rfl)).bind fun _ xs s' hxs => ?_
    obtain ⟨es, hes, rfl⟩ := hxs
    exact .read_bind (.require _) fun _ =>
      .reduce_ok (run_function hes name) ⟨_, ⟨rfl, rfl⟩, rfl⟩

theorem realizes_ofGeometry {p : Phrase Unit} {c : Translation GeometryLiteral}
    (h : Realizes u p s c (Pushes HoldsLiteral s)) :
    Realizes u p s (Translation.ofGeometry c) (Pushes HoldsOperand s) :=
  .map_right (h.mono fun _ _ _ ⟨e, he, hs'⟩ => ⟨e, he.operand, hs'⟩)

theorem realizes_plainGeometry (levels : Nat) (hs : s.Settled) :
    Realizes u (Grammar.geometryLiteral levels) s (Translation.plainGeometry u levels)
      (Pushes HoldsOperand s) :=
  .map_right ((realizes_geometryLiteral levels hs).mono fun _ _ _ ⟨e, he, hs'⟩ => ⟨e, he.operand, hs'⟩)

theorem realizes_literalNumber :
    Realizes u Grammar.signedLiteral s
      (Translation.signedLiteral u >>= fun n => Pure.pure (.literal (.number n)))
      (Pushes HoldsOperand s) :=
  .map_right (realizes_signedLiteral.mono fun _ _ _ ⟨e, he, hs'⟩ => ⟨e, he.operand, hs'⟩)

theorem realizes_wordFactor {inner? : Option (Phrase Unit)} {direct? : Option (Translation Expression)}
    (hinner : RealizesInner u HoldsOperand inner? direct?) (levels : Nat) (hs : s.Settled)
    (keyword? : Option Keyword) :
    Realizes u (Grammar.wordFactor u.dialect levels inner? keyword?) s
      (Translation.wordFactor u levels direct? keyword?) (Pushes HoldsOperand s) := by
  refine .read_bind (.bind .peekSecond fun _ => .pure _) fun called => ?_
  have hboolean : Realizes u
      (Phrase.next "an expression" >>= fun token => Phrase.reduce .booleanLiteral [token]) s
      (Translation.read (Phrase.next "an expression") >>= fun token =>
        Translation.complete u .booleanLiteral [token]
          (.ok (.literal (.boolean (Text.sameIgnoringAsciiCase token.text "true")))))
      (Pushes HoldsOperand s) :=
    .read_bind (.next _) fun token => .reduce_ok (run_booleanLiteral token) ⟨_, ⟨rfl, rfl⟩, rfl⟩
  have hattribute := Realizes.ite (b := called = true) (realizes_functionCall (s := s) hinner)
    realizes_propertyName
  cases keyword? with
  | none => exact hattribute
  | some keyword =>
    cases keyword with
    | TRUE => exact hboolean
    | FALSE => exact hboolean
    | SRID =>
      exact .read_bind .peekSecond fun _ =>
        .ite (realizes_ofGeometry (realizes_sridLiteral levels hs)) hattribute
    | ENVELOPE => exact .ite (realizes_ofGeometry realizes_envelope) realizes_propertyName
    | shape shape => exact .ite (realizes_plainGeometry levels hs) realizes_propertyName
    | _ => exact hattribute

theorem realizes_factor {inner? : Option (Phrase Unit)} {direct? : Option (Translation Expression)}
    (hinner : RealizesInner u HoldsOperand inner? direct?) (levels : Nat) (hs : s.Settled) :
    Realizes u (Grammar.factor u.dialect levels inner?) s (Translation.factor u levels direct?)
      (Pushes HoldsOperand s) := by
  refine .read_bind .peek fun token? => ?_
  cases token? with
  | none => exact .unexpected _
  | some token =>
    cases token with
    | word text quote => exact realizes_wordFactor hinner levels hs _
    | number text long => exact realizes_literalNumber
    | quoted text =>
      exact .read_bind (.next _) fun token =>
        .reduce_ok (run_stringLiteral token) ⟨_, ⟨rfl, rfl⟩, rfl⟩
    | other spelling => exact .unexpected _
    | sign sign =>
      cases sign with
      | minus => exact realizes_literalNumber
      | leftParen =>
        refine .read_bind (.next _) fun opener => ?_
        exact (Realizes.nested hinner hs opener).bind fun _ _ _ h =>
          .map_right (.read (.require _) fun _ => h)
      | _ => exact .unexpected _

theorem quiet_acceptOperator (first second : Sign × ArithmeticOp) :
    (Grammar.acceptOperator first second).Quiet :=
  .bind (.accept _) fun
    | some _ => .pure _
    | none => .bind (.accept _) fun _ => .pure _

theorem realizes_leftGrouped {operators : Phrase (Option (SourceToken × ArithmeticOp))}
    (hoperators : operators.Quiet) {operand : Phrase Unit} {direct : Translation Expression}
    (hoperand : ∀ s : ResultsStack, s.Settled → Realizes u operand s direct (Pushes HoldsOperand s))
    (hs : s.Settled) :
    Realizes u (Grammar.leftGrouped operators operand) s (Translation.leftGrouped u operators direct)
      (Pushes HoldsOperand s) := by
  refine (hoperand s hs).bind fun _ x s' hx => ?_
  -- After every operator one operand stands for all that was read so far.
  have hfirst : Pushes HoldsOperand s () (Translation.grouped u x []) s' := hx
  refine .map_right (Realizes.repeatAfter
    (I := fun done => Pushes HoldsOperand s () (Translation.grouped u x done)) hoperators ?_ hfirst)
  rintro ⟨token, op⟩ done s' ⟨e, he, rfl⟩
  refine (hoperand _ he.settled).bind fun _ y s' hy => ?_
  obtain ⟨e', he', rfl⟩ := hy
  refine .reduce_ok (run_arithmetic he he' op token) ⟨_, ⟨?_, rfl⟩, rfl⟩
  exact congrArg some (Translation.grouped_append u x y done op).symm

/-- With the given number of levels left for nesting, an expression leaves one operand. -/
theorem realizes_expression (levels : Nat) (hs : s.Settled) :
    Realizes u (Grammar.expression u.dialect levels) s (Translation.expression u levels)
      (Pushes HoldsOperand s) := by
  induction levels generalizing s with
  | zero =>
    exact realizes_leftGrouped (quiet_acceptOperator _ _) (fun _ hs => realizes_leftGrouped
      (quiet_acceptOperator _ _) (fun _ hs => realizes_factor .none 0 hs) hs) hs
  | succ levels ih =>
    exact realizes_leftGrouped (quiet_acceptOperator _ _) (fun _ hs => realizes_leftGrouped
      (quiet_acceptOperator _ _) (fun _ hs => realizes_factor (.some fun _ hs => ih hs) (levels + 1) hs)
        hs) hs

end GeoFilter
