import GeoFilter.Proofs.Framing.Expression
import GeoFilter.Proofs.Prompt

/-!
# Faults in geometries and expressions

Geometry texts and expressions are prompt.  What is found in their numbers, coordinates and reference systems is told
when they have been read, and is no fault of syntax.
-/

namespace GeoFilter

open Translation (read bind_of_ok)

variable {u : Setting}

/-! ### Findings -/

theorem orFinding_not_syntactic {a? : Option α} {finding finding' : Finding} (hfinding : finding.fault.isSyntactic = false)
    (h : orFinding a? finding = .error finding') : finding'.fault.isSyntactic = false := by
  unfold orFinding at h
  split at h <;> cases h
  exact hfinding

theorem numberOf_not_syntactic {read? : String → Option Number} {token : SourceToken} (finding : Finding) :
    numberOf read? token = .error finding → finding.fault.isSyntactic = false :=
  orFinding_not_syntactic rfl

theorem orDegenerate_not_syntactic {token : SourceToken} {r : Except GeometryError α} (finding : Finding)
    (h : orDegenerate token r = .error finding) : finding.fault.isSyntactic = false := by
  cases r <;> cases h
  rfl

theorem qualified_not_syntactic {resolver : CrsResolver} {g : Geometry} {srid : Int32} {token : SourceToken}
    (finding : Finding) (h : qualified resolver g srid token = .error finding) : finding.fault.isSyntactic = false := by
  unfold qualified at h
  split at h <;> cases h
  rfl

theorem qualifiedByCode_not_syntactic {resolver : CrsResolver} {g : Geometry} {code : Option SourceToken}
    (finding : Finding) (h : qualifiedByCode resolver g code = .error finding) : finding.fault.isSyntactic = false := by
  unfold qualifiedByCode at h
  split at h
  · cases h
  · split at h
    · exact qualified_not_syntactic finding h
    · cases h
      rfl

theorem qualifiedByNumber_not_syntactic {resolver : CrsResolver} {g : Geometry} {n : Number} {token : SourceToken}
    (finding : Finding) (h : qualifiedByNumber resolver g n token = .error finding) :
    finding.fault.isSyntactic = false := by
  unfold qualifiedByNumber at h
  split at h
  · exact qualified_not_syntactic finding h
  · cases h
    rfl

theorem qualifiedByToken_not_syntactic {resolver : CrsResolver} {g : Geometry} {token : SourceToken}
    (finding : Finding) (h : qualifiedByToken resolver g token = .error finding) : finding.fault.isSyntactic = false := by
  unfold qualifiedByToken at h
  split at h
  · exact qualified_not_syntactic finding h
  · cases h
    rfl

theorem rectangleOf_not_syntactic {resolver : CrsResolver} {west east north south : SourceToken}
    {code : Option SourceToken} (finding : Finding)
    (h : rectangleOf resolver west east north south code = .error finding) : finding.fault.isSyntactic = false := by
  have hbound : ∀ {token : SourceToken} {rest : Float → Except Finding GeometryLiteral},
      (boundOf token).bind rest = .error finding → finding.fault.isSyntactic = false ∨ ∃ x, rest x = .error finding := by
    intro token rest h
    cases hx : boundOf token with
    | ok x =>
      rw [hx] at h
      exact .inr ⟨x, h⟩
    | error finding' =>
      rw [hx] at h
      cases h
      exact .inl (orFinding_not_syntactic rfl hx)
  rcases hbound h with hfinding | ⟨minX, h⟩
  · exact hfinding
  rcases hbound h with hfinding | ⟨maxX, h⟩
  · exact hfinding
  rcases hbound h with hfinding | ⟨maxY, h⟩
  · exact hfinding
  rcases hbound h with hfinding | ⟨minY, h⟩
  · exact hfinding
  exact qualifiedByCode_not_syntactic finding h

/-! ### Numbers -/

theorem prompt_signed : Prompt [] (read Grammar.signed) := by
  rw [Grammar.signed, Translation.read_phrase_bind]
  refine (Prompt.accept _).bind fun minus? => ?_
  rw [Translation.read_phrase_bind]
  exact (Prompt.expectIf _ _).map _

theorem prompt_sign (minus? : Option SourceToken) (token : SourceToken) (n : Number) :
    Prompt [] (Translation.sign u minus? token n) := by
  cases minus? with
  | none => exact .pure n
  | some minus => exact .complete _ _ fun _ => orFinding_not_syntactic rfl

theorem prompt_signedNumber (production : Production) : Prompt [] (Translation.signedNumber u production) :=
  prompt_signed.bind fun _ => (Prompt.complete _ _ numberOf_not_syntactic).bind fun _ => (prompt_sign _ _ _).map _

theorem prompt_signedLiteral : Prompt [] (Translation.signedLiteral u) :=
  prompt_signed.bind fun _ => (Prompt.complete _ _ numberOf_not_syntactic).bind fun _ => prompt_sign _ _ _

/-! ### Geometry texts -/

theorem prompt_coordinate : Prompt [] (Translation.coordinate u) :=
  (prompt_signedNumber _).bind fun _ => (prompt_signedNumber _).bind fun _ => .complete_ok _ _ _

theorem prompt_lineBody (role : GeometryRole) (token : SourceToken) : Prompt [] (Translation.lineBody u role token) :=
  prompt_coordinate.commaSeparated.parenthesized.bind fun _ => .complete _ _ orDegenerate_not_syntactic

theorem prompt_ring : Prompt [] (Translation.ring u) :=
  (Prompt.here _).bind fun _ => prompt_lineBody _ _

theorem prompt_polygonBody (role : GeometryRole) (token : SourceToken) :
    Prompt [] (Translation.polygonBody u role token) :=
  prompt_ring.commaSeparated.parenthesized.bind fun _ => .complete _ _ orDegenerate_not_syntactic

theorem prompt_memberPoint : Prompt [] (Translation.memberPoint u) := by
  refine (Prompt.here _).bind fun _ => (Prompt.accept _).bind fun paren? => ?_
  cases paren? with
  | none => exact prompt_coordinate.bind fun _ => .complete_ok _ _ _
  | some paren => exact prompt_coordinate.bind fun _ => (Prompt.require _).bind fun _ => .complete_ok _ _ _

theorem prompt_memberLine : Prompt [] (Translation.memberLine u) :=
  (Prompt.here _).bind fun _ => prompt_lineBody _ _

theorem prompt_memberPolygon : Prompt [] (Translation.memberPolygon u) :=
  (Prompt.here _).bind fun _ => prompt_polygonBody _ _

/-- The members of a collection may be one level too deep, which is found at its keyword. -/
theorem prompt_shapeBody {member? : Option (Translation Geometry)} (hmember : ∀ member, member? = some member → Prompt [] member)
    (role : GeometryRole) (l : Lexeme) (shape : Shape) :
    Prompt [l] (Translation.shapeBody u member? role l.source shape) := by
  cases shape with
  | point => exact (prompt_coordinate.parenthesized.bind fun _ => .complete_ok _ _ _).after [l]
  | lineString => exact ((prompt_lineBody role l.source).map _).after [l]
  | polygon => exact ((prompt_polygonBody role l.source).map _).after [l]
  | multiPoint =>
    exact (prompt_memberPoint.commaSeparated.parenthesized.bind fun _ => .complete_ok _ _ _).after [l]
  | multiLineString =>
    exact (prompt_memberLine.commaSeparated.parenthesized.bind fun _ => .complete_ok _ _ _).after [l]
  | multiPolygon =>
    exact (prompt_memberPolygon.commaSeparated.parenthesized.bind fun _ => .complete_ok _ _ _).after [l]
  | collection =>
    exact .complete_ok_bind _ _ _ ((Prompt.parenthesized_nested hmember l).bind fun _ => .complete_ok _ _ _)

theorem prompt_shapeText {member? : Option (Translation Geometry)} (hmember : ∀ member, member? = some member → Prompt [] member)
    (role : GeometryRole) : Prompt [] (Translation.shapeText u member? role) := by
  refine Prompt.peek.bind fun token? => ?_
  split
  · exact .next_bind fun l => prompt_shapeBody hmember role l _
  · exact .unexpected _

theorem prompt_geometryText (levels : Nat) (role : GeometryRole) :
    Prompt [] (Translation.geometryText u levels role) := by
  induction levels generalizing role with
  | zero =>
    rw [Translation.geometryText]
    refine prompt_shapeText (fun member hmember => ?_) role
    cases hmember
  | succ levels ih =>
    rw [Translation.geometryText]
    refine prompt_shapeText (fun member hmember => ?_) role
    cases hmember
    exact ih _

theorem prompt_geometryLiteral (levels : Nat) : Prompt [] (Translation.geometryLiteral u levels) :=
  (Prompt.here _).bind fun _ => (prompt_geometryText levels _).bind fun _ => .complete_ok _ _ _

theorem prompt_sridLiteral (levels : Nat) : Prompt [] (Translation.sridLiteral u levels) := by
  refine (Prompt.next _).bind fun keyword => (Prompt.require _).bind fun _ => ?_
  cases u.dialect with
  | cql =>
    exact (prompt_signedNumber _).bind fun _ => (Prompt.require _).bind fun _ =>
      (prompt_geometryLiteral levels).bind fun _ => .complete _ _ qualifiedByNumber_not_syntactic
  | ecql =>
    exact prompt_signed.bind fun _ => (Prompt.require _).bind fun _ =>
      (prompt_geometryLiteral levels).bind fun _ => .complete _ _ qualifiedByToken_not_syntactic

theorem prompt_envelopeBound : Prompt [] (Translation.envelopeBound u) := by
  unfold Translation.envelopeBound
  cases u.dialect with
  | cql => exact (prompt_signedNumber _).map _
  | ecql => exact prompt_signed.map _

theorem prompt_referenceSystem : Prompt [] (read Grammar.referenceSystem?) := by
  rw [Grammar.referenceSystem?, Translation.read_phrase_bind]
  refine (Prompt.accept _).bind fun comma? => ?_
  cases comma? with
  | none => exact .pure []
  | some comma =>
    dsimp only
    rw [Translation.read_phrase_bind]
    exact (Prompt.expectIf _ _).map _

theorem prompt_envelope : Prompt [] (Translation.envelope u) :=
  (Prompt.next _).bind fun _ => (Prompt.require _).bind fun _ =>
    prompt_envelopeBound.bind fun _ => (Prompt.require _).bind fun _ =>
      prompt_envelopeBound.bind fun _ => (Prompt.require _).bind fun _ =>
        prompt_envelopeBound.bind fun _ => (Prompt.require _).bind fun _ =>
          prompt_envelopeBound.bind fun _ => prompt_referenceSystem.bind fun _ =>
            (Prompt.require _).bind fun _ => .complete _ _ rectangleOf_not_syntactic

/-! ### Operands -/

theorem prompt_attributeTail (first : SourceToken) : Prompt [] (read (Translation.attributeTail first)) :=
  .of_steady (.of_framed (framed_attributeTail (fun _ h => absurd h Bool.false_ne_true) first)) fun _ => ⟨_, rfl⟩

theorem prompt_propertyName : Prompt [] (Translation.propertyName u) :=
  (Prompt.expectIf _ _).bind fun first => (prompt_attributeTail first).bind fun _ => .complete_ok _ _ _

theorem prompt_parenFollows : Prompt [] (read Grammar.parenFollows) := by
  rw [Grammar.parenFollows, Translation.read_phrase_bind]
  exact Prompt.peekSecond.map _

section Nested

variable {inner? : Option (Translation Expression)} (hinner : ∀ inner, inner? = some inner → Prompt [] inner)

include hinner

theorem prompt_argument : Prompt [] (Translation.argument u inner?) :=
  Prompt.here_nested_bind hinner _ fun _ _ => .complete_ok _ _ _

theorem prompt_functionCall : Prompt [] (Translation.functionCall u inner?) := by
  refine (Prompt.next _).bind fun _ => (Prompt.require _).bind fun _ => (Prompt.complete_ok _ _ _).bind fun _ =>
    (Prompt.accept _).bind fun closing? => ?_
  cases closing? with
  | some closing => exact .complete_ok _ _ _
  | none =>
    exact (prompt_argument hinner).commaSeparated.bind fun _ => (Prompt.require _).bind fun _ => .complete_ok _ _ _

theorem prompt_wordFactor (levels : Nat) (keyword? : Option Keyword) :
    Prompt [] (Translation.wordFactor u levels inner? keyword?) := by
  refine prompt_parenFollows.bind fun called => ?_
  have hcall : Prompt [] (if called = true then Translation.functionCall u inner? else Translation.propertyName u) := by
    cases called with
    | true => exact prompt_functionCall hinner
    | false => exact prompt_propertyName
  split
  case h_1 => exact (Prompt.next _).bind fun _ => .complete_ok _ _ _
  case h_2 => exact (Prompt.next _).bind fun _ => .complete_ok _ _ _
  case h_3 =>
    refine Prompt.peekSecond.bind fun second? => ?_
    split
    · exact (prompt_sridLiteral levels).map _
    · exact hcall
  case h_4 =>
    split
    · exact prompt_envelope.map _
    · exact prompt_propertyName
  case h_5 =>
    split
    · exact (prompt_geometryLiteral levels).map _
    · exact prompt_propertyName
  case h_6 => exact hcall

theorem prompt_factor (levels : Nat) : Prompt [] (Translation.factor u levels inner?) := by
  refine Prompt.peek.bind fun token? => ?_
  split
  case h_1 => exact prompt_signedLiteral.map _
  case h_2 => exact prompt_signedLiteral.map _
  case h_3 => exact .next_bind fun l => (Prompt.nested hinner l).bind fun _ => (Prompt.require _).map _
  case h_4 => exact (Prompt.next _).bind fun _ => .complete_ok _ _ _
  case h_5 => exact prompt_wordFactor hinner levels _
  case h_6 => exact .unexpected _

end Nested

/-! ### Sums -/

theorem prompt_leftGrouped {operators : Phrase (Option (SourceToken × ArithmeticOp))}
    {operand : Translation Expression} (hoperators : Separates Token.never operators) (hoperand : Prompt [] operand) :
    Prompt [] (Translation.leftGrouped u operators operand) :=
  hoperand.bind fun _ => (Prompt.repeatAfter hoperators fun _ => hoperand.bind fun _ => .complete_ok _ _ _).map _

theorem prompt_sumOf {operand : Translation Expression} (hoperand : Prompt [] operand) :
    Prompt [] (Translation.sumOf u operand) :=
  prompt_leftGrouped (separates_acceptOperator rfl rfl rfl rfl)
    (prompt_leftGrouped (separates_acceptOperator rfl rfl rfl rfl) hoperand)

theorem prompt_expression (levels : Nat) : Prompt [] (Translation.expression u levels) := by
  induction levels with
  | zero =>
    rw [Translation.expression]
    exact prompt_sumOf (prompt_factor (by nofun) 0)
  | succ levels ih =>
    rw [Translation.expression]
    refine prompt_sumOf (prompt_factor (fun inner hinner => ?_) (levels + 1))
    cases hinner
    exact ih

end GeoFilter
