import GeoFilter.Proofs.Comparison
import GeoFilter.Proofs.Translation.Expression

/-!
# Comparing expressions

Expressions are translated in the same way in both settings of a comparison, apart from the two literals in
which a reference system can be named.
-/

namespace GeoFilter

open Phrase (Shortens)
open Translation (complete)

variable {w : Comparison}

/-! ### Phrases -/

theorem shortens_signed : Grammar.signed.Shortens :=
  .bind (.accept _) fun _ => .bind (.expectIf _ _) fun _ => .pure _

theorem shortens_parenFollows : Grammar.parenFollows.Shortens :=
  .bind .peekSecond fun _ => .pure _

theorem shortens_attributeTail (first : SourceToken) : (Translation.attributeTail first).Shortens := by
  intro input names rest h
  have hrest : (Grammar.attributeNames first input).2 = rest := congrArg Prod.snd (Except.ok.inj h)
  rw [← hrest]
  exact Translation.attributeNames_suffix first input

theorem shortens_acceptOperator (first second : Sign × ArithmeticOp) :
    (Grammar.acceptOperator first second).Shortens :=
  .bind (.accept _) fun
    | some _ => .pure _
    | none => .bind (.accept _) fun _ => .pure _

theorem shortens_referenceSystem : Grammar.referenceSystem?.Shortens :=
  .bind (.accept _) fun
    | some _ => .bind (.expectIf _ _) fun _ => .pure _
    | none => .pure _

/-! ### Numbers -/

theorem orFinding_error {a? : Option α} {finding f : Finding} (h : orFinding a? finding = .error f) :
    f = finding := by
  unfold orFinding at h
  split at h <;> cases h
  rfl

theorem alike_sign (minus? : Option SourceToken) (token : SourceToken) (n : Number) :
    Alike w (Translation.sign w.left minus? token n) (Translation.sign w.right minus? token n) := by
  cases minus? with
  | none => exact .pure n
  | some minus => exact .complete fun f hf => by rw [orFinding_error hf]; rfl

theorem alike_signedNumber (production : Production) :
    Alike w (Translation.signedNumber w.left production) (Translation.signedNumber w.right production) :=
  .read_bind shortens_signed fun n =>
    .bind (.complete fun f hf => by rw [orFinding_error hf]; rfl) fun v =>
      .bind (alike_sign n.1 n.2 v) fun v => .pure (v, n)

theorem alike_signedLiteral :
    Alike w (Translation.signedLiteral w.left) (Translation.signedLiteral w.right) :=
  .read_bind shortens_signed fun n =>
    .bind (.complete fun f hf => by rw [orFinding_error hf]; rfl) fun v => alike_sign n.1 n.2 v

/-! ### Geometry text -/

theorem orDegenerate_error {token : SourceToken} {r : Except GeometryError α} {f : Finding}
    (h : orDegenerate token r = .error f) : f.fault.isInvalidSrid = false := by
  cases r with
  | ok a => cases h
  | error e =>
    cases h
    rfl

theorem alike_coordinate : Alike w (Translation.coordinate w.left) (Translation.coordinate w.right) :=
  .bind (alike_signedNumber _) fun _ => .bind (alike_signedNumber _) fun _ => .complete_ok _

theorem alike_lineBody (role : GeometryRole) (token : SourceToken) :
    Alike w (Translation.lineBody w.left role token) (Translation.lineBody w.right role token) :=
  .bind (.parenthesized (.commaSeparated alike_coordinate)) fun _ =>
    .complete fun _ hf => orDegenerate_error hf

theorem alike_ring : Alike w (Translation.ring w.left) (Translation.ring w.right) :=
  .read_bind (.here _) fun token => alike_lineBody .ring token

theorem alike_polygonBody (role : GeometryRole) (token : SourceToken) :
    Alike w (Translation.polygonBody w.left role token) (Translation.polygonBody w.right role token) :=
  .bind (.parenthesized (.commaSeparated alike_ring)) fun _ => .complete fun _ hf => orDegenerate_error hf

theorem alike_memberPoint : Alike w (Translation.memberPoint w.left) (Translation.memberPoint w.right) := by
  refine .read_bind (.here _) fun token => .read_bind (.accept _) fun paren? => ?_
  cases paren? with
  | none => exact .bind alike_coordinate fun p => .complete_ok p
  | some _ =>
    exact .bind alike_coordinate fun p => .read_bind (.require _) fun _ => .complete_ok p

theorem alike_memberLine : Alike w (Translation.memberLine w.left) (Translation.memberLine w.right) :=
  .read_bind (.here _) fun token => alike_lineBody _ token

theorem alike_memberPolygon :
    Alike w (Translation.memberPolygon w.left) (Translation.memberPolygon w.right) :=
  .read_bind (.here _) fun token => alike_polygonBody _ token

theorem alike_shapeBody {member? member?' : Option (Translation Geometry)}
    (hmember : Option.Rel (Alike w) member? member?') (role : GeometryRole) (token : SourceToken)
    (shape : Shape) :
    Alike w (Translation.shapeBody w.left member? role token shape)
      (Translation.shapeBody w.right member?' role token shape) := by
  cases shape with
  | point => exact .bind (.parenthesized alike_coordinate) fun p => .complete_ok _
  | lineString => exact (alike_lineBody role token).map
  | polygon => exact (alike_polygonBody role token).map
  | multiPoint =>
    exact .bind (.parenthesized (.commaSeparated alike_memberPoint)) fun _ => .complete_ok _
  | multiLineString =>
    exact .bind (.parenthesized (.commaSeparated alike_memberLine)) fun _ => .complete_ok _
  | multiPolygon =>
    exact .bind (.parenthesized (.commaSeparated alike_memberPolygon)) fun _ => .complete_ok _
  | collection =>
    exact .bind (.complete_ok ()) fun _ =>
      .bind (.parenthesized (.commaSeparated (.nested hmember token))) fun _ => .complete_ok _

theorem alike_shapeText {member? member?' : Option (Translation Geometry)}
    (hmember : Option.Rel (Alike w) member? member?') (role : GeometryRole) :
    Alike w (Translation.shapeText w.left member? role) (Translation.shapeText w.right member?' role) := by
  refine .read_bind .peek fun token? => ?_
  cases token?.bind Token.keyword? with
  | none => exact .unexpected _
  | some keyword =>
    cases keyword with
    | shape shape => exact .read_bind (.next _) fun token => alike_shapeBody hmember role token shape
    | _ => exact .unexpected _

theorem alike_geometryText (levels : Nat) (role : GeometryRole) :
    Alike w (Translation.geometryText w.left levels role) (Translation.geometryText w.right levels role) := by
  induction levels generalizing role with
  | zero => exact alike_shapeText .none role
  | succ levels ih => exact alike_shapeText (.some (ih .collectionMember)) role

theorem alike_geometryLiteral (levels : Nat) :
    Alike w (Translation.geometryLiteral w.left levels) (Translation.geometryLiteral w.right levels) :=
  .read_bind (.here _) fun _ => .bind (alike_geometryText levels .root) fun g => .complete_ok g

/-! ### Expressions -/

/-- What a comparison still has to tell of a setting: that the literals which name a reference system are
alike. -/
structure Comparison.LiteralsAlike (w : Comparison) : Prop where
  srid : ∀ levels, Alike w (Translation.sridLiteral w.left levels) (Translation.sridLiteral w.right levels)
  envelope : Alike w (Translation.envelope w.left) (Translation.envelope w.right)

theorem alike_propertyName :
    Alike w (Translation.propertyName w.left) (Translation.propertyName w.right) := by
  refine .read_bind (.expectIf _ _) fun first => .read_bind (shortens_attributeTail first) fun names => ?_
  exact .complete_made (by rw [w.kit_eq])

theorem alike_argument {inner? inner?' : Option (Translation Expression)}
    (hinner : Option.Rel (Alike w) inner? inner?') :
    Alike w (Translation.argument w.left inner?) (Translation.argument w.right inner?') :=
  .read_bind (.here _) fun token => .bind (.nested hinner token) fun x => .complete_ok x

theorem alike_functionCall {inner? inner?' : Option (Translation Expression)}
    (hinner : Option.Rel (Alike w) inner? inner?') :
    Alike w (Translation.functionCall w.left inner?) (Translation.functionCall w.right inner?') := by
  refine .read_bind (.next _) fun name => .read_bind (.require _) fun _ => ?_
  refine .bind (.complete_ok ()) fun _ => .read_bind (.accept _) fun closing? => ?_
  cases closing? with
  | some _ => exact .complete_made (by rw [w.kit_eq])
  | none =>
    exact .bind (.commaSeparated (alike_argument hinner)) fun _ =>
      .read_bind (.require _) fun _ => .complete_made (by rw [w.kit_eq])

theorem alike_plainGeometry (levels : Nat) :
    Alike w (Translation.plainGeometry w.left levels) (Translation.plainGeometry w.right levels) :=
  (alike_geometryLiteral levels).map

theorem alike_wordFactor (hw : w.LiteralsAlike) {inner? inner?' : Option (Translation Expression)}
    (hinner : Option.Rel (Alike w) inner? inner?') (levels : Nat) (keyword? : Option Keyword) :
    Alike w (Translation.wordFactor w.left levels inner? keyword?)
      (Translation.wordFactor w.right levels inner?' keyword?) := by
  refine .read_bind shortens_parenFollows fun called => ?_
  have hattribute := Alike.ite (b := called = true) (alike_functionCall hinner) alike_propertyName
  have hboolean : Alike w
      (Translation.read (Phrase.next "an expression") >>= fun token =>
        complete w.left .booleanLiteral [token]
          (.ok (Expression.literal (.boolean (Text.sameIgnoringAsciiCase token.text "true")))))
      (Translation.read (Phrase.next "an expression") >>= fun token =>
        complete w.right .booleanLiteral [token]
          (.ok (Expression.literal (.boolean (Text.sameIgnoringAsciiCase token.text "true"))))) :=
    .read_bind (.next _) fun token => .complete_ok _
  cases keyword? with
  | none => exact hattribute
  | some keyword =>
    cases keyword with
    | TRUE => exact hboolean
    | FALSE => exact hboolean
    | SRID => exact .read_bind .peekSecond fun _ => .ite (hw.srid levels).map hattribute
    | ENVELOPE => exact .ite hw.envelope.map alike_propertyName
    | shape shape => exact .ite (alike_plainGeometry levels) alike_propertyName
    | _ => exact hattribute

theorem alike_factor (hw : w.LiteralsAlike) {inner? inner?' : Option (Translation Expression)}
    (hinner : Option.Rel (Alike w) inner? inner?') (levels : Nat) :
    Alike w (Translation.factor w.left levels inner?) (Translation.factor w.right levels inner?') := by
  refine .read_bind .peek fun token? => ?_
  cases token? with
  | none => exact .unexpected _
  | some token =>
    cases token with
    | word text quote => exact alike_wordFactor hw hinner levels _
    | number text long => exact alike_signedLiteral.map
    | quoted text => exact .read_bind (.next _) fun token => .complete_ok _
    | other spelling => exact .unexpected _
    | sign sign =>
      cases sign with
      | minus => exact alike_signedLiteral.map
      | leftParen =>
        exact .read_bind (.next _) fun opener => .bind (.nested hinner opener) fun x =>
          .read_bind (.require _) fun _ => .pure x
      | _ => exact .unexpected _

theorem alike_leftGrouped {operators : Phrase (Option (SourceToken × ArithmeticOp))}
    (hoperators : operators.Shortens) {operand operand' : Translation Expression}
    (hoperand : Alike w operand operand') :
    Alike w (Translation.leftGrouped w.left operators operand)
      (Translation.leftGrouped w.right operators operand') := by
  have hgrouped : Translation.grouped w.right = Translation.grouped w.left := by
    unfold Translation.grouped
    rw [w.kit_eq]
  refine hoperand.bind fun x => .bind (.repeatAfter hoperators fun next => ?_) fun more => ?_
  · exact hoperand.bind fun y => .complete_ok _
  · rw [hgrouped]
    exact .pure _

theorem alike_sumOf {operand operand' : Translation Expression} (hoperand : Alike w operand operand') :
    Alike w (Translation.sumOf w.left operand) (Translation.sumOf w.right operand') :=
  alike_leftGrouped (shortens_acceptOperator _ _)
    (alike_leftGrouped (shortens_acceptOperator _ _) hoperand)

/-- Expressions are alike as soon as the literals are that name a reference system. -/
theorem alike_expression (hw : w.LiteralsAlike) (levels : Nat) :
    Alike w (Translation.expression w.left levels) (Translation.expression w.right levels) := by
  induction levels with
  | zero => exact alike_sumOf (alike_factor hw .none 0)
  | succ levels ih => exact alike_sumOf (alike_factor hw (.some ih) (levels + 1))

end GeoFilter
