import GeoFilter.Proofs.Sparing

/-!
# Where brackets stand

Brackets open and close groups of predicates in the extended dialect and stand nowhere else: no expression, no geometry
and no predicate but a group takes a bracket.
-/

namespace GeoFilter

open Translation (read bind_of_ok bind_eq_ok read_eq_ok read_phrase_bind)

variable {u : Setting}

/-! ### Geometries -/

theorem spares_coordinate : Spares .brackets (Translation.coordinate u) :=
  (spares_signedNumber _).bind fun _ => (spares_signedNumber _).bind fun _ => .complete u _ _ _

theorem spares_lineBody (role : GeometryRole) (token : SourceToken) : Spares .brackets (Translation.lineBody u role token) :=
  spares_coordinate.listed.bind fun _ => .complete u _ _ _

theorem spares_ring : Spares .brackets (Translation.ring u) := (Spares.here _).bind fun _ => spares_lineBody _ _

theorem spares_polygonBody (role : GeometryRole) (token : SourceToken) :
    Spares .brackets (Translation.polygonBody u role token) :=
  spares_ring.listed.bind fun _ => .complete u _ _ _

theorem spares_memberPoint : Spares .brackets (Translation.memberPoint u) := by
  refine (Spares.here _).bind fun _ => (Spares.accept rfl).bind fun paren? => ?_
  cases paren? with
  | none => exact spares_coordinate.bind fun _ => .complete u _ _ _
  | some paren => exact spares_coordinate.bind fun _ => (Spares.require rfl).bind fun _ => .complete u _ _ _

theorem spares_memberLine : Spares .brackets (Translation.memberLine u) := (Spares.here _).bind fun _ => spares_lineBody _ _

theorem spares_memberPolygon : Spares .brackets (Translation.memberPolygon u) :=
  (Spares.here _).bind fun _ => spares_polygonBody _ _

section Members

variable {member? : Option (Translation Geometry)} (hmember : ∀ member, member? = some member → Spares .brackets member)

include hmember

theorem spares_shapeBody (role : GeometryRole) (token : SourceToken) (shape : Shape) :
    Spares .brackets (Translation.shapeBody u member? role token shape) := by
  cases shape with
  | point => exact spares_coordinate.parenthesized.bind fun _ => .complete u _ _ _
  | lineString => exact (spares_lineBody _ _).map _
  | polygon => exact (spares_polygonBody _ _).map _
  | multiPoint => exact spares_memberPoint.listed.bind fun _ => .complete u _ _ _
  | multiLineString => exact spares_memberLine.listed.bind fun _ => .complete u _ _ _
  | multiPolygon => exact spares_memberPolygon.listed.bind fun _ => .complete u _ _ _
  | collection =>
    exact (Spares.complete u _ _ _).bind fun _ => (Spares.nested hmember token).listed.bind fun _ => .complete u _ _ _

theorem spares_shapeText (role : GeometryRole) : Spares .brackets (Translation.shapeText u member? role) := by
  refine .peek_bind (.unexpected _) fun l => ?_
  split
  case h_1 hkeyword => exact .next_bind (isReservable_of_keyword hkeyword) fun _ => spares_shapeBody hmember _ _ _
  case h_2 => exact Spares.at (.unexpected _) l

end Members

theorem spares_geometryText (levels : Nat) (role : GeometryRole) : Spares .brackets (Translation.geometryText u levels role) := by
  induction levels generalizing role with
  | zero => exact spares_shapeText (by nofun) role
  | succ levels ih =>
    refine spares_shapeText (fun member hmember => ?_) role
    cases hmember
    exact ih _

theorem spares_geometryLiteral (levels : Nat) : Spares .brackets (Translation.geometryLiteral u levels) :=
  (Spares.here _).bind fun _ => (spares_geometryText _ _).bind fun _ => .complete u _ _ _

theorem sparesAt_sridLiteral (levels : Nat) {l : Lexeme} (hl : l.token.isReservable = false) :
    SparesAt .brackets l (Translation.sridLiteral u levels) := by
  refine .next_bind hl fun _ => (Spares.require rfl).bind fun _ => ?_
  cases u.dialect with
  | cql =>
    exact (spares_signedNumber _).bind fun _ => (Spares.require_of rfl).bind fun _ =>
      (spares_geometryLiteral _).bind fun _ => .complete u _ _ _
  | ecql =>
    exact spares_signed.bind fun _ => (Spares.require_of rfl).bind fun _ =>
      (spares_geometryLiteral _).bind fun _ => .complete u _ _ _

theorem spares_envelopeBound : Spares .brackets (Translation.envelopeBound u) := by
  unfold Translation.envelopeBound
  cases u.dialect with
  | cql => exact (spares_signedNumber _).map _
  | ecql => exact spares_signed.map _

theorem sparesAt_envelope {l : Lexeme} (hl : l.token.isReservable = false) : SparesAt .brackets l (Translation.envelope u) :=
  .next_bind hl fun _ => (Spares.require rfl).bind fun _ => spares_envelopeBound.bind fun _ =>
    (Spares.require rfl).bind fun _ => spares_envelopeBound.bind fun _ => (Spares.require rfl).bind fun _ =>
      spares_envelopeBound.bind fun _ => (Spares.require rfl).bind fun _ => spares_envelopeBound.bind fun _ =>
        spares_referenceSystem.bind fun _ => (Spares.require rfl).bind fun _ => .complete u _ _ _

/-! ### Expressions -/

theorem spares_plainGeometry (levels : Nat) : Spares .brackets (Translation.plainGeometry u levels) :=
  (spares_geometryLiteral levels).map _

section Nested

variable {inner? : Option (Translation Expression)} (hinner : ∀ inner, inner? = some inner → Spares .brackets inner) {l : Lexeme}

include hinner

theorem sparesAt_functionCall (hl : l.token.isReservable = false) : SparesAt .brackets l (Translation.functionCall u inner?) := by
  have hargument : Spares .brackets (Translation.argument u inner?) :=
    (Spares.here _).bind fun token => (Spares.nested hinner token).bind fun _ => .complete u _ _ _
  refine .next_bind hl fun _ => (Spares.require rfl).bind fun _ => (Spares.complete u _ _ _).bind fun _ =>
    (Spares.accept rfl).bind fun paren? => ?_
  cases paren? with
  | none => exact hargument.commaSeparated.bind fun _ => (Spares.require rfl).bind fun _ => .complete u _ _ _
  | some paren => exact .complete u _ _ _

theorem sparesAt_wordFactor (levels : Nat) (hl : l.token.isReservable = false) (keyword? : Option Keyword) :
    SparesAt .brackets l (Translation.wordFactor u levels inner? keyword?) := by
  refine Spares.parenFollows_bind fun called => ?_
  have hcall : SparesAt .brackets l (if called then Translation.functionCall u inner? else Translation.propertyName u) := by
    split
    · exact sparesAt_functionCall hinner hl
    · exact spares_propertyName.at l
  split
  · exact .next_bind hl fun _ => .complete u _ _ _
  · exact .next_bind hl fun _ => .complete u _ _ _
  · refine Spares.peekSecond_bind fun token? => ?_
    split
    · exact (sparesAt_sridLiteral levels hl).map _
    · exact hcall
  · split
    · exact (sparesAt_envelope hl).map _
    · exact spares_propertyName.at l
  · split
    · exact (spares_plainGeometry levels).at l
    · exact spares_propertyName.at l
  · exact hcall

theorem spares_factor (levels : Nat) : Spares .brackets (Translation.factor u levels inner?) := by
  refine .peek_bind (.unexpected _) fun l => ?_
  split
  · exact (spares_signedLiteral.map _).at l
  · exact (spares_signedLiteral.map _).at l
  case h_3 htoken =>
    refine .next_bind ?_ fun opener => (Spares.nested hinner opener).bind fun _ => (Spares.require rfl).map _
    rw [Option.some.inj htoken]
    rfl
  case h_4 htoken =>
    refine .next_bind ?_ fun _ => .complete u _ _ _
    rw [Option.some.inj htoken]
    rfl
  case h_5 htoken =>
    refine sparesAt_wordFactor hinner levels ?_ _
    rw [Option.some.inj htoken]
    rfl
  case h_6 => exact Spares.at (.unexpected _) l

end Nested

theorem spares_leftGrouped {operators : Phrase (Option (SourceToken × ArithmeticOp))}
    (hoperators : Spares .brackets (read operators)) {operand : Translation Expression} (hoperand : Spares .brackets operand) :
    Spares .brackets (Translation.leftGrouped u operators operand) :=
  hoperand.bind fun _ => (Spares.repeatAfter hoperators fun _ => hoperand.bind fun _ => .complete u _ _ _).map _

theorem spares_expression (levels : Nat) : Spares .brackets (Translation.expression u levels) := by
  have hsum : ∀ levels inner?, (∀ inner, inner? = some inner → Spares .brackets inner) →
      Spares .brackets (Translation.sumOf u (Translation.factor u levels inner?)) := fun levels inner? hinner =>
    spares_leftGrouped (spares_acceptOperator rfl rfl)
      (spares_leftGrouped (spares_acceptOperator rfl rfl) (spares_factor hinner levels))
  induction levels with
  | zero => exact hsum 0 none (by nofun)
  | succ levels ih =>
    refine hsum (levels + 1) _ fun inner hinner => ?_
    cases hinner
    exact ih

/-! ### Spatial predicates -/

theorem spares_operand (levels : Nat) : Spares .brackets (Translation.operand u levels) := by
  unfold Translation.operand
  cases u.dialect with
  | cql => exact spares_propertyName
  | ecql => exact spares_expression levels

theorem spares_geometryOperand (levels : Nat) : Spares .brackets (Translation.geometryOperand u levels) := by
  unfold Translation.geometryOperand
  cases u.dialect with
  | ecql => exact spares_expression levels
  | cql =>
    refine .peek_bind (.unexpected _) fun l => ?_
    split
    case h_1 hkeyword => exact (sparesAt_sridLiteral levels (isReservable_of_keyword hkeyword)).map _
    case h_2 hkeyword => exact (sparesAt_envelope (isReservable_of_keyword hkeyword)).map _
    case h_3 => exact (spares_plainGeometry levels).at l
    case h_4 => exact Spares.at (.unexpected _) l

section Predicates

variable {l : Lexeme} (hl : l.token.isReservable = false) (levels : Nat)

include hl

theorem sparesAt_featureIds : SparesAt .brackets l (Translation.featureIds u) := by
  have hid : Spares .brackets (Translation.featureId u) := by
    refine (Spares.expectIf (fun token htoken => ?_) _).bind fun _ => .complete u _ _ _
    cases token <;> first | rfl | cases htoken
  exact .next_bind hl fun _ => hid.listed.bind fun _ => .complete u _ _ _

theorem sparesAt_spatial (op : SpatialOp) : SparesAt .brackets l (Translation.spatial u levels op) :=
  .next_bind hl fun _ => (Spares.require rfl).bind fun _ => (spares_operand levels).bind fun _ =>
    (Spares.require rfl).bind fun _ => (spares_geometryOperand levels).bind fun _ => (Spares.require rfl).bind fun _ =>
      .complete u _ _ _

theorem sparesAt_bbox : SparesAt .brackets l (Translation.bbox u levels) := by
  have hbound : Spares .brackets (Translation.commaBound u) := (Spares.require rfl).bind fun _ => spares_signedLiteral
  exact .next_bind hl fun _ => (Spares.require rfl).bind fun _ => (spares_operand levels).bind fun _ =>
    hbound.bind fun _ => hbound.bind fun _ => hbound.bind fun _ => hbound.bind fun _ =>
      spares_referenceSystem.bind fun _ => (Spares.require rfl).bind fun _ => .complete u _ _ _

theorem sparesAt_distance (op : DistanceOp) : SparesAt .brackets l (Translation.distance u levels op) :=
  .next_bind hl fun _ => (Spares.require rfl).bind fun _ => (spares_operand levels).bind fun _ =>
    (Spares.require rfl).bind fun _ => (spares_geometryOperand levels).bind fun _ => (Spares.require rfl).bind fun _ =>
      spares_signedLiteral.bind fun _ => (Spares.require rfl).bind fun _ => spares_unitWords.bind fun _ =>
        (Spares.require rfl).bind fun _ => .complete u _ _ _

theorem sparesAt_relate : SparesAt .brackets l (Translation.relate u levels) := by
  refine .next_bind hl fun _ => (Spares.require rfl).bind fun _ => (spares_operand levels).bind fun _ =>
    (Spares.require rfl).bind fun _ => (spares_geometryOperand levels).bind fun _ => (Spares.accept rfl).bind
      fun comma? => ?_
  cases comma? with
  | none => exact (Spares.require rfl).bind fun _ => .complete u _ _ _
  | some comma =>
    refine spares_de9imPattern_bind (fun pattern => (Spares.complete u _ _ _).bind fun _ =>
      (Spares.complete u _ _ _).bind fun _ => (Spares.require rfl).bind fun _ => .complete u _ _ _) ?_
    intro pattern input b rest h
    obtain ⟨_, _, _, h⟩ := bind_eq_ok h
    obtain ⟨_, _, hcheck, _⟩ := bind_eq_ok h
    exact isDe9im_of_de9imOf (Translation.complete_eq_ok hcheck).2.1

end Predicates

/-! ### Tests of a value -/

section Tests

variable (levels : Nat) (left : Expression) (token : SourceToken)

theorem spares_inList (production : Production) (negated : Bool) :
    Spares .brackets (Translation.inList u levels production negated left token) := by
  have hmember : Spares .brackets (Translation.listMember u levels) :=
    (Spares.here _).bind fun _ => (spares_expression levels).bind fun _ => .complete u _ _ _
  exact hmember.listed.bind fun _ => .complete u _ _ _

theorem spares_like (production : Production) (ignoringCase negated : Bool) :
    Spares .brackets (Translation.like u production ignoringCase negated left token) := by
  refine (Spares.expectIf (fun token htoken => ?_) _).bind fun _ => (Spares.complete u _ _ _).bind fun _ =>
    .complete u _ _ _
  cases token <;> first | rfl | cases htoken

theorem spares_between (production : Production) (negated : Bool) :
    Spares .brackets (Translation.between u levels production negated left token) :=
  (spares_expression levels).bind fun _ => (Spares.expectWord _).bind fun _ => (spares_expression levels).bind fun _ =>
    .complete u _ _ _

theorem spares_isNull : Spares .brackets (Translation.isNull u left token) :=
  (Spares.acceptWord _).bind fun _ => (Spares.expectWord _).bind fun _ => .complete u _ _ _

theorem spares_negatedTest : Spares .brackets (Translation.negatedTest u levels left token) := by
  refine .peek_bind (.unexpected _) fun l => ?_
  split
  case h_1 hkeyword => exact .next_bind (isReservable_of_keyword hkeyword) fun _ => spares_inList _ _ _ _ _
  case h_2 hkeyword => exact .next_bind (isReservable_of_keyword hkeyword) fun _ => spares_like _ _ _ _ _
  case h_3 hkeyword => exact .next_bind (isReservable_of_keyword hkeyword) fun _ => spares_like _ _ _ _ _
  case h_4 hkeyword => exact .next_bind (isReservable_of_keyword hkeyword) fun _ => spares_between _ _ _ _ _
  case h_5 => exact Spares.at (.unexpected _) l

theorem sparesAt_keywordTest (l : Lexeme) :
    SparesAt .brackets l (Translation.keywordTest u levels left l.token.keyword?) := by
  unfold Translation.keywordTest
  split
  case h_1 hkeyword => exact .next_bind (isReservable_of_keyword hkeyword) fun _ => spares_negatedTest _ _ _
  case h_2 hkeyword => exact .next_bind (isReservable_of_keyword hkeyword) fun _ => spares_inList _ _ _ _ _
  case h_3 hkeyword => exact .next_bind (isReservable_of_keyword hkeyword) fun _ => spares_like _ _ _ _ _
  case h_4 hkeyword => exact .next_bind (isReservable_of_keyword hkeyword) fun _ => spares_like _ _ _ _ _
  case h_5 hkeyword => exact .next_bind (isReservable_of_keyword hkeyword) fun _ => spares_between _ _ _ _ _
  case h_6 hkeyword => exact .next_bind (isReservable_of_keyword hkeyword) fun _ => spares_isNull _ _
  case h_7 => exact Spares.at (.unexpected _) l

theorem spares_testOf : Spares .brackets (Translation.testOf u levels left) := by
  refine .peek_bind (.unexpected _) fun l => ?_
  dsimp only
  split
  case h_1 op hop =>
    exact .next_bind (isReservable_of_comparisonOperator hop) fun _ => (spares_expression levels).bind fun _ =>
      .complete u _ _ _
  case h_2 => exact sparesAt_keywordTest levels left l

theorem spares_valueTest : Spares .brackets (Translation.valueTest u levels) :=
  (spares_operand levels).bind fun left => spares_testOf levels left

theorem sparesAt_simplePredicate (l : Lexeme) (called : Bool) :
    SparesAt .brackets l (Translation.simplePredicate u levels l.token.keyword? called) := by
  unfold Translation.simplePredicate
  split
  case h_1 hkeyword => exact .next_bind (isReservable_of_keyword hkeyword) fun _ => .complete u _ _ _
  case h_2 hkeyword => exact .next_bind (isReservable_of_keyword hkeyword) fun _ => .complete u _ _ _
  case h_3 hkeyword => exact sparesAt_spatial (isReservable_of_keyword hkeyword) levels _
  case h_4 hkeyword => exact sparesAt_featureIds (isReservable_of_keyword hkeyword)
  case h_5 hkeyword =>
    split
    · exact sparesAt_featureIds (isReservable_of_keyword hkeyword)
    · exact (spares_valueTest levels).at l
  case h_6 hkeyword => exact sparesAt_bbox (isReservable_of_keyword hkeyword) levels
  case h_7 hkeyword => exact sparesAt_distance (isReservable_of_keyword hkeyword) levels _
  case h_8 hkeyword => exact sparesAt_distance (isReservable_of_keyword hkeyword) levels _
  case h_9 hkeyword => exact sparesAt_relate (isReservable_of_keyword hkeyword) levels
  case h_10 => exact (spares_valueTest levels).at l

end Tests

end GeoFilter
