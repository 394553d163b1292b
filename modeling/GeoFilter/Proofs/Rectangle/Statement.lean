import GeoFilter.Proofs.GeometryText.Reading
import GeoFilter.Proofs.Membership.Statement
import GeoFilter.Proofs.NumberKind
import GeoFilter.Proofs.Rectangle

/-!
# Rectangles in statements

BBOX and ENVELOPE write the same rectangle.  The bounds of a BBOX are numbers of their kinds, negated and then
converted, and stand corner by corner; those of an ENVELOPE are texts with their signs, and stand side by side.  A BBOX
holds of the features whose geometry has an envelope that shares a point with the rectangle.
-/

namespace GeoFilter

open Floating (IsNumber)
open Translation (read bind_of_ok read_of_ok)

/-! ### How rectangles are written -/

/-- Four bounds as they are written: the ordinates of a corner, and those of the opposite one. -/
structure Bounds where
  x : SignedNumber
  y : SignedNumber
  x' : SignedNumber
  y' : SignedNumber

namespace Bounds

def bbox (bounds : Bounds) (word : String) (name : AttributeName) : List Token :=
  .word word none :: .sign .leftParen :: (name.tokens ++
    (.sign .comma :: bounds.x.tokens ++ (.sign .comma :: bounds.y.tokens ++
      (.sign .comma :: bounds.x'.tokens ++ (.sign .comma :: bounds.y'.tokens ++ [.sign .rightParen])))))

/-- The tokens of ENVELOPE and the same bounds: first both abscissas, then the second ordinate and the first. -/
def envelope (bounds : Bounds) (word : String) : List Token :=
  .word word none :: .sign .leftParen :: (bounds.x.tokens ++ (.sign .comma :: (bounds.x'.tokens ++
    (.sign .comma :: (bounds.y'.tokens ++ (.sign .comma :: (bounds.y.tokens ++ [.sign .rightParen])))))))

def corners (bounds : Bounds) : Set Coordinate :=
  Envelope.corners bounds.x.value.toFloat bounds.x'.value.toFloat bounds.y.value.toFloat bounds.y'.value.toFloat

def region (bounds : Bounds) : Geometry :=
  rectangle bounds.x.value.toFloat bounds.x'.value.toFloat bounds.y.value.toFloat bounds.y'.value.toFloat

def toList (bounds : Bounds) : List SignedNumber := [bounds.x, bounds.y, bounds.x', bounds.y']

def AreNumerals (bounds : Bounds) : Prop :=
  ∀ n ∈ bounds.toList, Numeral n.text.toList

theorem AreNumerals.each {bounds : Bounds} (h : bounds.AreNumerals) :
    Numeral bounds.x.text.toList ∧ Numeral bounds.y.text.toList ∧ Numeral bounds.x'.text.toList ∧
      Numeral bounds.y'.text.toList := by
  obtain ⟨hx, hy, hx', hy', -⟩ : _ ∧ _ ∧ _ ∧ _ ∧ _ := by
    simpa only [AreNumerals, toList, List.forall_mem_cons] using h
  exact ⟨hx, hy, hx', hy'⟩

end Bounds

/-- Whether a name is an attribute where an expression may stand: in the extended dialect, the words TRUE and FALSE
are none. -/
def AttributeName.IsAttribute (name : AttributeName) (dialect : Dialect) : Prop :=
  dialect = .ecql → name.word.truth? = none

/-- The rectangle of tokens that are read as bounds, in the reference system of a code if one is given. -/
theorem rectangleOf_of_bounds (resolver : CrsResolver) {west east north south : SourceToken} {x x' y y' : Float}
    (hx : Decimal.readFloat? west.text = some x) (hx' : Decimal.readFloat? east.text = some x')
    (hy' : Decimal.readFloat? north.text = some y') (hy : Decimal.readFloat? south.text = some y)
    (code : Option SourceToken) :
    rectangleOf resolver west east north south code = qualifiedByCode resolver (rectangle x x' y y') code := by
  have hbound : ∀ {token : SourceToken} {x : Float}, Decimal.readFloat? token.text = some x → boundOf token = .ok x := by
    intro token x hread
    rw [boundOf, hread]
    rfl
  unfold rectangleOf
  rw [hbound hx, hbound hx', hbound hy', hbound hy]
  rfl

namespace Yields

variable {u : Setting} {levels : Nat} {ts : List Token} {F : List Token → Prop}

theorem operand_before_comma (hu : u.IsPlain) {name : AttributeName} (hname : name.IsAttribute u.dialect) :
    Yields (Translation.operand u levels) name.tokens (Followed [.comma]) (some (.property name.path)) := by
  have hcomma : ∀ r, Followed [.comma] r → ∀ token ∈ r.head?, token = .sign .comma := by
    intro r hr token htoken
    obtain ⟨r', rfl⟩ := List.head?_eq_some_iff.mp htoken
    obtain ⟨sign, hsign, rfl⟩ := hr token r' rfl
    rw [List.mem_singleton.mp hsign]
  have hends : ∀ r, Followed [.comma] r → EndsExpression r := fun r hr token htoken => hcomma r hr token htoken ▸ rfl
  obtain ⟨text, quote, more⟩ := name
  unfold Translation.operand
  split
  case h_1 =>
    have hproperty := Yields.propertyName hu.permits text quote more
    rw [hu.factory] at hproperty
    exact hproperty.mono fun r hr => (hends r hr).endsName
  case h_2 hdialect =>
    refine expression_of_factor hends ?_
    have hsrid : ∀ r, Followed [.comma] r → (Token.word text quote).keyword? = some .SRID →
        (more.flatMap NamePart.tokens ++ r).head? ≠ some (.sign .equal) := by
      intro r hr _ hhead
      cases more with
      | nil => cases hcomma r hr _ hhead
      | cons part more => cases part <;> cases hhead
    have hproperty : Yields (Translation.factor u levels (Translation.deeper u levels)) _ (Followed [.comma]) _ :=
      factor_property hu.permits more (hname hdialect) (fun r hr => (hends r hr).endsName) hsrid
    rw [hu.factory] at hproperty
    exact hproperty

theorem envelopeBound_reads (hpermits : ∀ red, u.permits red = true) (n : SignedNumber) {input : List Lexeme}
    {r : List Token} (h : tokensOf input = n.tokens ++ r) :
    ∃ token rest, Translation.envelopeBound u input = .ok (token, rest) ∧ token.text = n.signedText ∧ tokensOf rest = r := by
  unfold Translation.envelopeBound
  cases u.dialect with
  | cql =>
    obtain ⟨signed, rest, hread, htext, hrest⟩ := signedNumber_complete hpermits .envelopeComponent n h
    exact ⟨_, rest, bind_of_ok hread, htext, hrest⟩
  | ecql =>
    obtain ⟨minus?, token, v, rest, hsigned, htext, _, _, hrest⟩ := signed_complete hpermits n h
    exact ⟨_, rest, bind_of_ok (read_of_ok hsigned), htext, hrest⟩

theorem envelopeBound_bind (hpermits : ∀ red, u.permits red = true) (n : SignedNumber)
    {f : SourceToken → Translation β} {w? : Option β}
    (hf : ∀ token : SourceToken, token.text = n.signedText → Yields (f token) ts F w?) :
    Yields (Translation.envelopeBound u >>= f) (n.tokens ++ ts) F w? := by
  intro input r htokens hr
  rw [List.append_assoc] at htokens
  obtain ⟨token, rest, hbound, htext, hrest⟩ := envelopeBound_reads hpermits n htokens
  rw [bind_of_ok hbound]
  exact hf token htext rest r hrest hr

/-- An ENVELOPE is the rectangle between its bounds, each read in double precision. -/
theorem envelope (hpermits : ∀ red, u.permits red = true) (word : String) {bounds : Bounds} {x x' y y' : Float}
    (hx : Decimal.readFloat? bounds.x.signedText = some x) (hx' : Decimal.readFloat? bounds.x'.signedText = some x')
    (hy : Decimal.readFloat? bounds.y.signedText = some y) (hy' : Decimal.readFloat? bounds.y'.signedText = some y') :
    Yields (Translation.envelope u) (bounds.envelope word) F (some ⟨rectangle x x' y y', none⟩) := by
  refine next_bind fun place => require_bind ?_
  refine envelopeBound_bind hpermits bounds.x fun west hwest => require_bind ?_
  refine envelopeBound_bind hpermits bounds.x' fun east heast => require_bind ?_
  refine envelopeBound_bind hpermits bounds.y' fun north hnorth => require_bind ?_
  refine envelopeBound_bind hpermits bounds.y fun south hsouth => referenceSystem_none_bind (require_bind ?_)
  have hrectangle := rectangleOf_of_bounds u.kit.resolver (hwest ▸ hx) (heast ▸ hx') (hnorth ▸ hy') (hsouth ▸ hy) none
  rw [List.head?_nil, hrectangle]
  exact complete hpermits _ _ _

theorem factor_envelope {word : String} (hword : Keyword.ofText? word = some .ENVELOPE) {g : GeometryLiteral}
    (h : Yields (Translation.envelope u) (.word word none :: .sign .leftParen :: ts) F (some g))
    {inner? : Option (Translation Expression)} :
    Yields (Translation.factor u levels inner?) (.word word none :: .sign .leftParen :: ts) F
      (some (.literal (.geometry g))) := by
  refine peek_bind (parenFollows_bind (fun _ _ => rfl) ?_)
  have hkeyword : (Token.word word none).keyword? = some .ENVELOPE := hword
  rw [hkeyword]
  exact h.map _

end Yields

theorem SignedNumber.mem_tokens (n : SignedNumber) : .number n.text n.long ∈ n.tokens := by
  unfold tokens
  split
  · exact List.mem_cons_of_mem _ List.mem_cons_self
  · exact List.mem_cons_self

theorem Bounds.areNumerals {statement : String} {L : List Lexeme} (hscan : scan statement = .ok L) {bounds : Bounds}
    (h : ∀ n ∈ bounds.toList, n.tokens ⊆ tokensOf L) : bounds.AreNumerals := by
  intro n hn
  obtain ⟨l, hl, htoken⟩ := List.mem_map.mp (h n hn n.mem_tokens)
  exact numeral_of_scan hscan l hl _ _ htoken

section Compiled

variable {compiler : Compiler} (hplain : compiler.toolkit.factory = .plain) {word : String} {bounds : Bounds}
  {statement : String} {L : List Lexeme} (hscan : scan statement = .ok L)

include hscan

theorem Bounds.areNumerals_of_bbox {name : AttributeName} (htokens : tokensOf L = bounds.bbox word name) :
    bounds.AreNumerals := by
  refine Bounds.areNumerals hscan ?_
  rw [htokens]
  simp only [Bounds.toList, List.forall_mem_cons]
  refine ⟨?_, ?_, ?_, ?_, nofun⟩ <;> intro token htoken <;> simp [Bounds.bbox, htoken]

theorem Bounds.areNumerals_of_envelope (htokens : tokensOf L = bounds.envelope word) : bounds.AreNumerals := by
  refine Bounds.areNumerals hscan ?_
  rw [htokens]
  simp only [Bounds.toList, List.forall_mem_cons]
  refine ⟨?_, ?_, ?_, ?_, nofun⟩ <;> intro token htoken <;> simp [Bounds.envelope, htoken]

omit hscan in
/-- The rectangle between the bounds of a statement has the envelope of the corners. -/
theorem Bounds.AreNumerals.tight (h : bounds.AreNumerals) :
    ∃ e, bounds.region.envelope = some e ∧ e.Tight bounds.corners := by
  obtain ⟨hx, hy, hx', hy'⟩ := h.each
  have htight := Envelope.tight_between (SignedNumber.isNumber_toFloat hx) (SignedNumber.isNumber_toFloat hx')
    (SignedNumber.isNumber_toFloat hy) (SignedNumber.isNumber_toFloat hy')
  exact htight.rectangle

include hplain

theorem bbox_compiled (hword : Keyword.ofText? word = some .BBOX) {name : AttributeName}
    (hname : name.IsAttribute compiler.dialect) (htokens : tokensOf L = bounds.bbox word name) :
    (compiler.compileFilter statement).result =
      .ok (.spatial .bbox (.property name.path) (.literal (.geometry ⟨bounds.region, none⟩))) := by
  have hu := Compiler.isPlain_setting hplain
  have hoperand : Yields (Translation.operand compiler.setting maxNesting) _ _ _ := Yields.operand_before_comma hu hname
  have hbbox := Yields.bbox (F := ClosesOperand) hu.permits word hoperand bounds.x bounds.y bounds.x' bounds.y'
  rw [hu.factory] at hbbox
  exact Yields.compileFilter (.filter_of_conjunction (.conjunction (.negation_called hword nofun hbbox))) rfl hscan
    htokens

/-- An ENVELOPE compiles to a rectangle with the same ring and the same envelope. -/
theorem envelope_compiled (hword : Keyword.ofText? word = some .ENVELOPE) (htokens : tokensOf L = bounds.envelope word) :
    ∃ g e, (compiler.compileExpression statement).result = .ok (.literal (.geometry ⟨g, none⟩)) ∧
      (g == bounds.region) = true ∧ g.envelope = some e ∧ ∀ e' : Envelope, e'.Tight bounds.corners → (e == e') = true := by
  have hu := Compiler.isPlain_setting hplain
  obtain ⟨hx, hy, hx', hy'⟩ := (Bounds.areNumerals_of_envelope hscan htokens).each
  obtain ⟨x, hx, hsameX⟩ := SignedNumber.readFloat_signedText hx
  obtain ⟨x', hx', hsameX'⟩ := SignedNumber.readFloat_signedText hx'
  obtain ⟨y, hy, hsameY⟩ := SignedNumber.readFloat_signedText hy
  obtain ⟨y', hy', hsameY'⟩ := SignedNumber.readFloat_signedText hy'
  have hnumber : ∀ {x z : Float}, (x == z) = true → IsNumber x :=
    fun h => (Floating.isNumber_of_le (Floating.le_of_beq h)).1
  have hexpression : Yields (Translation.expression compiler.setting maxNesting) (bounds.envelope word) EndsExpression
      (some (.literal (.geometry ⟨rectangle x x' y y', none⟩))) :=
    .expression_of_factor (fun _ hr => hr) (.factor_envelope hword (.envelope hu.permits word hx hx' hy hy'))
  obtain ⟨e, henvelope, htight⟩ :=
    (Envelope.tight_between (hnumber hsameX) (hnumber hsameX') (hnumber hsameY) (hnumber hsameY')).rectangle
  exact ⟨rectangle x x' y y', e, hexpression.compileExpression nofun hscan htokens,
    Envelope.rectangle_same hsameX hsameX' hsameY hsameY', henvelope,
    fun e' he' => htight.beq_of_bounds hsameX hsameX' hsameY hsameY' he'⟩

end Compiled

/-- **BBOX and ENVELOPE write the same rectangle.**  In each dialect, for all four signed numbers, which every number of
a statement is with either sign, BBOX with the bounds of two corners and ENVELOPE with the same bounds compile to
rectangles with equal rings and equal envelopes.  The sides of the envelope are the smaller and the larger of the bounds
on either axis, in whichever order they are given, as they are read in double precision. -/
theorem bbox_same_as_envelope (compiler : Compiler) (hplain : compiler.toolkit.factory = .plain) :
    (∀ statement L, scan statement = .ok L → ∀ negative text long, .number text long ∈ tokensOf L →
      ∃ n : SignedNumber, n.negative = negative ∧ n.text = text ∧ n.long = long) ∧
    ∀ (bounds : Bounds) (name : AttributeName), name.IsAttribute compiler.dialect →
      ∀ word word', Keyword.ofText? word = some .BBOX → Keyword.ofText? word' = some .ENVELOPE →
      ∀ s L, scan s = .ok L → tokensOf L = bounds.bbox word name →
      ∀ s' L', scan s' = .ok L' → tokensOf L' = bounds.envelope word' →
      ∃ g g' e e', (compiler.compileFilter s).result =
          .ok (.spatial .bbox (.property name.path) (.literal (.geometry ⟨g, none⟩))) ∧
        (compiler.compileExpression s').result = .ok (.literal (.geometry ⟨g', none⟩)) ∧ (g' == g) = true ∧
        g.envelope = some e ∧ e.Tight bounds.corners ∧ g'.envelope = some e' ∧ (e' == e) = true ∧
        ∀ n ∈ bounds.toList, ∃ x, Decimal.readFloat? n.signedText = some x ∧ (x == n.value.toFloat) = true := by
  refine ⟨fun statement L hscan negative text long hmem => ?_, ?_⟩
  · obtain ⟨l, hl, htoken⟩ := List.mem_map.mp hmem
    obtain ⟨v, hv⟩ := (numeral_of_scan hscan l hl _ _ htoken).readSigned_isSome negative
    exact ⟨⟨negative, text, long, v, hv⟩, rfl, rfl, rfl⟩
  · intro bounds name hname word word' hword hword' s L hscan htokens s' L' hscan' htokens'
    obtain ⟨e, henvelope, htight⟩ := (Bounds.areNumerals_of_bbox hscan htokens).tight
    obtain ⟨g', e', hcompiled, hsame, henvelope', hequal⟩ := envelope_compiled hplain hscan' hword' htokens'
    exact ⟨bounds.region, g', e, e', bbox_compiled hplain hscan hword hname htokens, hcompiled, hsame, henvelope, htight,
      henvelope', hequal e htight,
      fun n hn => SignedNumber.readFloat_signedText (Bounds.areNumerals_of_bbox hscan htokens n hn)⟩

theorem bbox_same_as_envelope_kinds :
    let compiler : Compiler := ⟨.cql, ⟨.plain, CrsRegistry.wellKnown.resolver⟩⟩
    ∃ g g', (compiler.compileFilter "BBOX(a.b, 4, 1e1, -2, 9007199254740993)").result =
        .ok (.spatial .bbox (.property ⟨["a", "b"]⟩) (.literal (.geometry ⟨g, none⟩))) ∧
      (compiler.compileExpression "envelope(4, -2, 9007199254740993, 1e1)").result =
        .ok (.literal (.geometry ⟨g', none⟩)) ∧
      (g' == g) = true := by
  intro compiler
  let lexemes (statement : String) : List Lexeme := (scan statement).toOption.getD []
  obtain ⟨ten, hten⟩ : ∃ v, Number.readSigned? false "1e1" = some v :=
    Option.isSome_iff_exists.mp (by decide +kernel)
  obtain ⟨large, hlarge⟩ : ∃ v, Number.readSigned? false "9007199254740993" = some v :=
    Option.isSome_iff_exists.mp (by decide +kernel)
  let bounds : Bounds := ⟨⟨false, "4", false, .integer 4, rfl⟩, ⟨false, "1e1", false, ten, hten⟩,
    ⟨true, "2", false, .integer (-2), rfl⟩, ⟨false, "9007199254740993", false, large, hlarge⟩⟩
  obtain ⟨g, g', e, e', hbbox, henvelope, hsame, _⟩ := (bbox_same_as_envelope compiler rfl).2 bounds
    ⟨"a", none, [.point "b" none]⟩ nofun "BBOX" "envelope" (by decide +kernel) (by decide +kernel)
    "BBOX(a.b, 4, 1e1, -2, 9007199254740993)" (lexemes "BBOX(a.b, 4, 1e1, -2, 9007199254740993)") (by decide +kernel) rfl
    "envelope(4, -2, 9007199254740993, 1e1)" (lexemes "envelope(4, -2, 9007199254740993, 1e1)") (by decide +kernel) rfl
  exact ⟨g, g', hbbox, henvelope, hsame⟩

/-! ### Evaluation -/

/-- A relation of an attribute to a rectangle holds if the attribute is a geometry with an envelope that meets that of
the rectangle. -/
theorem evaluate_bbox [RegexLibrary] (feature : Feature) (path : PropertyPath) {region : GeometryLiteral} {e : Envelope}
    (hregion : region.geometry.envelope = some e) :
    ∃ b, (Predicate.spatial .bbox (.property path) (.literal (.geometry region))).evaluate feature = .ok b ∧
      (b = true ↔ ∃ g a, feature.property path = some (.geometry g) ∧ g.geometry.envelope = some a ∧
        a.intersects e = true) := by
  refine ⟨(feature.property path).any (·.envelopesMeet (.geometry region)), ?_, ?_⟩
  · unfold Predicate.evaluate Expression.evaluate
    cases feature.property path <;> rfl
  · rw [Option.any_eq_true]
    constructor
    · rintro ⟨value, hvalue, hmeet⟩
      unfold Literal.envelopesMeet at hmeet
      split at hmeet
      case h_1 g g' hg' =>
        cases hg'
        rw [hregion] at hmeet
        split at hmeet
        case h_1 a e' ha he' =>
          cases he'
          exact ⟨g, a, hvalue, ha, hmeet⟩
        case h_2 => cases hmeet
      case h_2 => cases hmeet
    · rintro ⟨g, a, hg, ha, hmeet⟩
      refine ⟨_, hg, ?_⟩
      unfold Literal.envelopesMeet
      dsimp only
      rw [ha, hregion]
      exact hmeet

/-- **BBOX is evaluated as the intersection of rectangles.**  In each dialect, for every attribute and every four bounds,
BBOX compiles to a predicate that is evaluated on every feature.  If the attribute is a geometry without a NaN, the
predicate holds if and only if some point lies between the bounds and in the envelope of the geometry; it fails if there
is no such envelope, because the attribute is missing, no geometry, or one without a point. -/
theorem bbox_evaluated [RegexLibrary] {compiler : Compiler} (hplain : compiler.toolkit.factory = .plain) {bounds : Bounds}
    {name : AttributeName} (hname : name.IsAttribute compiler.dialect) {word : String}
    (hword : Keyword.ofText? word = some .BBOX) {statement : String} {L : List Lexeme} (hscan : scan statement = .ok L)
    (htokens : tokensOf L = bounds.bbox word name) :
    ∃ p, (compiler.compileFilter statement).result = .ok p ∧ ∀ feature : Feature,
      (∃ b, p.evaluate feature = .ok b) ∧
      (∀ g : GeometryLiteral, feature.property name.path = some (.geometry g) →
        (∀ q ∈ g.geometry.vertices, q.IsNumber) →
        (p.evaluate feature = .ok true ↔ ∃ q : Coordinate,
          Floating.Between bounds.x.value.toFloat bounds.x'.value.toFloat q.x ∧
          Floating.Between bounds.y.value.toFloat bounds.y'.value.toFloat q.y ∧
          ∃ e, g.geometry.envelope = some e ∧ e.Covers q)) ∧
      ((∀ g e, feature.property name.path = some (.geometry g) → g.geometry.envelope ≠ some e) →
        p.evaluate feature = .ok false) := by
  obtain ⟨e, henvelope, htight⟩ := (Bounds.areNumerals_of_bbox hscan htokens).tight
  refine ⟨_, bbox_compiled hplain hscan hword hname htokens, fun feature => ?_⟩
  have hregion : (⟨bounds.region, none⟩ : GeometryLiteral).geometry.envelope = some e := henvelope
  obtain ⟨b, hevaluate, hb⟩ := evaluate_bbox feature name.path hregion
  rw [hevaluate]
  refine ⟨⟨b, rfl⟩, fun g hg hnumbers => ?_, fun hnone => ?_⟩
  · have hencloses := (Geometry.envelope_spec g.geometry).2 hnumbers
    have hshared : ∀ {a : Envelope}, g.geometry.envelope = some a →
        (a.intersects e = true ↔ ∃ q, a.Covers q ∧ e.Covers q) := by
      intro a ha
      rw [ha] at hencloses
      exact Envelope.intersects_iff hencloses htight
    rw [Except.ok.injEq, hb]
    constructor
    · rintro ⟨g', a, hg', ha, hmeet⟩
      cases hg.symm.trans hg'
      obtain ⟨q, hcovers, hbounds⟩ := (hshared ha).mp hmeet
      obtain ⟨hx, hy⟩ := (htight.covers_iff q).mp hbounds
      exact ⟨q, hx, hy, a, ha, hcovers⟩
    · rintro ⟨q, hx, hy, a, ha, hcovers⟩
      exact ⟨g, a, hg, ha, (hshared ha).mpr ⟨q, hcovers, (htight.covers_iff q).mpr ⟨hx, hy⟩⟩⟩
  · cases b with
    | false => rfl
    | true =>
      obtain ⟨g, a, hg, ha, _⟩ := hb.mp rfl
      exact absurd ha (hnone g a hg)

/-- A point in a corner of the rectangle, beside an empty member, and a feature without the attribute. -/
theorem bbox_evaluated_corner :
    let compiler : Compiler := ⟨.ecql, ⟨.plain, CrsRegistry.wellKnown.resolver⟩⟩
    let corner : Geometry := .collection [.multiPoint [], .point ⟨4, 1⟩]
    ∃ p, (compiler.compileFilter "BBOX(g, 4, 3, -2, 1)").result = .ok p ∧
      p.evaluate ⟨"corner", fun _ => some (.geometry ⟨corner, none⟩)⟩ = .ok true ∧
      p.evaluate ⟨"nothing", fun _ => none⟩ = .ok false := by
  intro compiler corner
  let bounds : Bounds := ⟨⟨false, "4", false, .integer 4, rfl⟩, ⟨false, "3", false, .integer 3, rfl⟩,
    ⟨true, "2", false, .integer (-2), rfl⟩, ⟨false, "1", false, .integer 1, rfl⟩⟩
  have hnumbers : ∀ q ∈ corner.vertices, q.x.isNaN = false ∧ q.y.isNaN = false := by decide +kernel
  obtain ⟨p, hp, hevaluate⟩ := @bbox_evaluated _ compiler rfl bounds ⟨"g", none, []⟩ (fun _ => rfl) "BBOX"
    (by decide +kernel) "BBOX(g, 4, 3, -2, 1)" ((scan "BBOX(g, 4, 3, -2, 1)").toOption.getD []) (by decide +kernel) rfl
  refine ⟨p, hp, ?_, (hevaluate _).2.2 nofun⟩
  refine ((hevaluate _).2.1 ⟨corner, none⟩ rfl fun q hq => ?_).mpr ⟨⟨4, 1⟩, ?_, ?_, ⟨4, 4, 1, 1⟩, rfl, ?_⟩
  · exact ⟨Floating.isNaN_eq_false_iff.mp (hnumbers q hq).1, Floating.isNaN_eq_false_iff.mp (hnumbers q hq).2⟩
  · exact .inr (by decide +kernel)
  · exact .inr (by decide +kernel)
  · exact (by decide +kernel : ((4 : Float) ≤ 4 ∧ (4 : Float) ≤ 4) ∧ (1 : Float) ≤ 1 ∧ (1 : Float) ≤ 1)

end GeoFilter
