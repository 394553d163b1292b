import GeoFilter.Proofs.Rectangle.Statement
import GeoFilter.Proofs.ReferenceSystem
import GeoFilter.Proofs.Rereading.Geometry
import GeoFilter.Proofs.Yield.Conclusion

/-!
# Reference systems in statements

ENVELOPE and BBOX name a reference system behind their bounds, SRID names one in front of a geometry text.  However its
number is written, a rectangle is made in the same system, or the statement fails in the same way.
-/

namespace GeoFilter

open Decimal (digitsValue)
open Translation (read bind_of_ok read_of_ok)

/-! ### How rectangles in reference systems are written -/

namespace Bounds

variable (bounds : Bounds) (word : String) (code : Token)

def envelopeIn : List Token :=
  .word word none :: .sign .leftParen :: (bounds.x.tokens ++ (.sign .comma :: (bounds.x'.tokens ++
    (.sign .comma :: (bounds.y'.tokens ++ (.sign .comma :: (bounds.y.tokens ++
      [.sign .comma, code, .sign .rightParen])))))))

def bboxIn (name : AttributeName) : List Token :=
  .word word none :: .sign .leftParen :: (name.tokens ++
    (.sign .comma :: bounds.x.tokens ++ (.sign .comma :: bounds.y.tokens ++
      (.sign .comma :: bounds.x'.tokens ++ (.sign .comma :: bounds.y'.tokens ++
        [.sign .comma, code, .sign .rightParen])))))

end Bounds

/-- The tokens of a number of a reference system and a geometry text. -/
def sridTokens (word number : String) (long : Bool) (t : GeometryText) : List Token :=
  .word word none :: .sign .equal :: .number number long :: .sign .semicolon :: t.tokens

/-- The ways to write the rectangle between bounds in the reference system of a number: as an ENVELOPE, or as the text of a
polygon behind the number. -/
inductive RectangleIn (bounds : Bounds) (number : String) : List Token → Prop
  | envelope {word : String} (hword : Keyword.ofText? word = some .ENVELOPE) {code : Token}
    (hcode : NamesSystem number code) : RectangleIn bounds number (bounds.envelopeIn word code)
  | text {word : String} (hword : Keyword.ofText? word = some .SRID) (long : Bool) (shape : ShapeWord .polygon)
    {rings : PolygonText} {region : Polygon} (hrings : rings.polygon? = some region)
    (hsame : (Geometry.polygon region == bounds.region) = true) :
    RectangleIn bounds number (sridTokens word number long (.polygon shape rings))

theorem NamesSystem.isCode {number : String} {code : Token} (h : NamesSystem number code) :
    Grammar.isCode code = true := by
  cases h <;> rfl

/-! ### Texts of rectangles -/

theorem Row.exists_polygon_of_ring {ring : LineText} (h : ring.IsRing) :
    ∃ region : Polygon, Row.polygon? ⟨ring, []⟩ = some region ∧
      region.shell.points = ring.toList.map Position.coordinate ∧ region.holes = [] := by
  obtain ⟨region, hregion⟩ :=
    Option.isSome_iff_exists.mp ((Row.isSome_polygon? ⟨ring, []⟩).mpr (List.forall_mem_singleton.mpr h))
  refine ⟨region, hregion, ?_⟩
  cases hline : ring.line? with
  | none =>
    rw [Row.polygon?, Row.values?, hline] at hregion
    cases hregion
  | some line =>
    have hrings : (Polygon.ofRings line []).toOption = some region := by
      rw [Row.polygon?, Row.values?, hline] at hregion
      exact hregion
    unfold Polygon.ofRings at hrings
    split at hrings
    · cases hrings
    · cases hrings
      exact ⟨Row.line?_eq_some hline, rfl⟩

/-- The rectangle between four bounds is written by the text of a polygon, with some of the bounds as its ordinates. -/
theorem Bounds.AreNumerals.exists_polygonText {bounds : Bounds} (h : bounds.AreNumerals) :
    ∃ (rings : PolygonText) (region : Polygon), rings.polygon? = some region ∧
      (Geometry.polygon region == bounds.region) = true := by
  obtain ⟨hx, hy, hx', hy'⟩ := h.each
  have hself : ∀ {n : SignedNumber}, Numeral n.text.toList → (n.value.toFloat == n.value.toFloat) = true :=
    fun hn => (SignedNumber.isNumber_toFloat hn).beq_self
  -- The ordinates of the corners are bounds themselves.
  have hbound : ∀ {n n' : SignedNumber} {z : Float}, Numeral n.text.toList → Numeral n'.text.toList →
      z = n.value.toFloat ∨ z = n'.value.toFloat → ∃ m : SignedNumber, m.value.toFloat = z ∧ (z == z) = true := by
    rintro n n' z hn hn' (rfl | rfl)
    · exact ⟨n, rfl, hself hn⟩
    · exact ⟨n', rfl, hself hn'⟩
  let e := Envelope.between bounds.x.value.toFloat bounds.x'.value.toFloat bounds.y.value.toFloat bounds.y'.value.toFloat
  obtain ⟨west, hwest, hminX⟩ : ∃ m : SignedNumber, m.value.toFloat = e.minX ∧ _ := hbound hx hx' (Floating.least_eq _ _)
  obtain ⟨east, heast, -⟩ : ∃ m : SignedNumber, m.value.toFloat = e.maxX ∧ _ := hbound hx' hx (Floating.greatest_eq _ _)
  obtain ⟨south, hsouth, hminY⟩ : ∃ m : SignedNumber, m.value.toFloat = e.minY ∧ _ := hbound hy hy' (Floating.least_eq _ _)
  obtain ⟨north, hnorth, -⟩ : ∃ m : SignedNumber, m.value.toFloat = e.maxY ∧ _ := hbound hy' hy (Floating.greatest_eq _ _)
  let ring : LineText := ⟨⟨west, south⟩, [⟨west, north⟩, ⟨east, north⟩, ⟨east, south⟩, ⟨west, south⟩]⟩
  have hpoints : ring.toList.map Position.coordinate = (Polygon.rectangle e).shell.points := by
    simp [ring, Row.toList, Position.coordinate, hwest, heast, hsouth, hnorth, Polygon.rectangle]
  have hclosed : (west.value.toFloat == west.value.toFloat && south.value.toFloat == south.value.toFloat) = true := by
    rw [hwest, hsouth, hminX, hminY]
    rfl
  have hring : ring.IsRing := ⟨Nat.le_succ 4, hclosed⟩
  obtain ⟨region, hregion, hshell, hholes⟩ := Row.exists_polygon_of_ring hring
  refine ⟨⟨ring, []⟩, region, hregion, Bool.and_eq_true_iff.mpr ⟨?_, ?_⟩⟩
  · have hsame : (bounds.region == bounds.region) = true :=
      Envelope.rectangle_same (hself hx) (hself hx') (hself hy) (hself hy')
    change (region.shell.points == (Polygon.rectangle e).shell.points) = true
    rw [hshell, hpoints]
    exact (Bool.and_eq_true_iff.mp hsame).1
  · rw [hholes]
    rfl

/-! ### Equal rectangles -/

theorem Geometry.beq_of_polygon {g g' : Geometry} {region : Polygon} (h : (g == .polygon region) = true)
    (h' : (g' == .polygon region) = true) : (g == g') = true := by
  have hpolygon : ∀ {g : Geometry}, (g == .polygon region) = true → ∃ p : Polygon, g = .polygon p ∧ (p == region) = true := by
    intro g h
    cases g with
    | polygon p => exact ⟨p, rfl, h⟩
    | _ => cases h
  obtain ⟨p, rfl, hp⟩ := hpolygon h
  obtain ⟨q, rfl, hq⟩ := hpolygon h'
  exact BEq.trans (α := Polygon) hp (BEq.symm hq)

/-! ### Codes -/

namespace Concludes

variable {u : Setting} {levels : Nat} {ts : List Token} {said : Except Finding β → Prop}

theorem envelopeBound_bind (hpermits : ∀ red, u.permits red = true) (n : SignedNumber) {f : SourceToken → Translation β}
    (hf : ∀ token : SourceToken, token.text = n.signedText → Concludes (f token) ts said) :
    Concludes (Translation.envelopeBound u >>= f) (n.tokens ++ ts) said := by
  intro input htokens
  obtain ⟨token, rest, hbound, htext, hrest⟩ := Yields.envelopeBound_reads hpermits n htokens
  rw [bind_of_ok hbound]
  exact hf token htext rest hrest

theorem referenceSystem_bind {f : List SourceToken → Translation β} {code : Token} (hcode : Grammar.isCode code = true)
    (hf : ∀ place, Concludes (f [⟨code.text, place⟩]) ts said) :
    Concludes (read Grammar.referenceSystem? >>= f) (.sign .comma :: code :: ts) said := by
  intro input htokens
  obtain ⟨comma, behind, rfl, hbehind⟩ := tokensOf_eq_cons htokens
  obtain ⟨place, rest, rfl, hrest⟩ := tokensOf_eq_cons hbehind
  have hread : read Grammar.referenceSystem? (⟨.sign .comma, comma⟩ :: ⟨code, place⟩ :: rest) =
      .ok ([⟨code.text, place⟩], rest) := by
    have hexpect : (Phrase.expectIf Grammar.isCode "a reference system code" (⟨code, place⟩ :: rest)).outcome =
        .ok (⟨code.text, place⟩, rest) := by
      rw [Phrase.expectIf, Phrase.outcome_bind, Phrase.acceptIf, if_pos hcode]
      rfl
    rw [Grammar.referenceSystem?, Translation.read_phrase_bind, bind_of_ok (read_of_ok (accept_sign ..))]
    dsimp only
    rw [Translation.read_phrase_bind, bind_of_ok (read_of_ok hexpect)]
    rfl
  rw [bind_of_ok hread]
  exact hf place rest hrest

variable {bounds : Bounds} {word : String} {code : Token}

section Codes

variable (hcode : Grammar.isCode code = true)

include hcode

theorem envelope (hpermits : ∀ red, u.permits red = true) {x x' y y' : Float}
    (hx : Decimal.readFloat? bounds.x.signedText = some x) (hx' : Decimal.readFloat? bounds.x'.signedText = some x')
    (hy : Decimal.readFloat? bounds.y.signedText = some y) (hy' : Decimal.readFloat? bounds.y'.signedText = some y') :
    Concludes (Translation.envelope u) (bounds.envelopeIn word code) fun r =>
      ∃ place, r = qualifiedByCode u.kit.resolver (rectangle x x' y y') (some ⟨code.text, place⟩) := by
  refine next_bind fun _ => require_bind ?_
  refine envelopeBound_bind hpermits bounds.x fun west hwest => require_bind ?_
  refine envelopeBound_bind hpermits bounds.x' fun east heast => require_bind ?_
  refine envelopeBound_bind hpermits bounds.y' fun north hnorth => require_bind ?_
  refine envelopeBound_bind hpermits bounds.y fun south hsouth => referenceSystem_bind hcode fun place => require_bind ?_
  exact complete hpermits
    ⟨place, rectangleOf_of_bounds u.kit.resolver (hwest ▸ hx) (heast ▸ hx') (hnorth ▸ hy') (hsouth ▸ hy) _⟩

theorem bbox (hu : u.IsPlain) {x : Expression} (hleft : Yields (Translation.operand u levels) ts (Followed [.comma]) (some x)) :
    Concludes (Translation.bbox u levels) (.word word none :: .sign .leftParen :: (ts ++
        (.sign .comma :: bounds.x.tokens ++ (.sign .comma :: bounds.y.tokens ++ (.sign .comma :: bounds.x'.tokens ++
          (.sign .comma :: bounds.y'.tokens ++ [.sign .comma, code, .sign .rightParen])))))) fun r =>
      ∃ place, r = (qualifiedByCode u.kit.resolver bounds.region (some ⟨code.text, place⟩)).map fun g =>
        .spatial .bbox x (.literal (.geometry g)) := by
  have hbound : ∀ n : SignedNumber, Yields (Translation.commaBound u) (.sign .comma :: n.tokens) Anything (some n.value) :=
    fun n => .commaBound hu.permits n
  refine next_bind fun _ => require_bind (bind hleft ?_ (followed_cons (by simp) _))
  refine bind (hbound bounds.x) (bind (hbound bounds.y) (bind (hbound bounds.x') (bind (hbound bounds.y') ?_ ?_) ?_) ?_) ?_
  · refine referenceSystem_bind hcode fun place => require_bind (complete hu.permits ⟨place, ?_⟩)
    rw [List.head?_cons, boxed, hu.factory, Bounds.region]
    cases qualifiedByCode u.kit.resolver _ (some ⟨code.text, place⟩) <;> rfl
  all_goals trivial

end Codes

theorem sridLiteral (hpermits : ∀ red, u.permits red = true) (hecql : u.dialect = .ecql) {number : String} (long : Bool)
    {t : GeometryText} (hdepth : t.depth ≤ levels) {g : Geometry} (hg : t.value? = some g) :
    Concludes (Translation.sridLiteral u levels) (sridTokens word number long t) fun r =>
      ∃ place, r = qualifiedByToken u.kit.resolver g ⟨number, place⟩ := by
  have hgeometry := yields_geometryLiteral hpermits hdepth
  rw [hg] at hgeometry
  refine next_bind fun keyword => require_bind ?_
  rw [hecql]
  refine take_bind (fun place => (none, ⟨number, place⟩)) (fun _ _ => rfl) fun place => require_bind ?_
  exact last hgeometry (complete hpermits ⟨place, rfl⟩) trivial

/-! ### Operands -/

def OfGeometry (said : Except Finding GeometryLiteral → Prop) (r : Except Finding Expression) : Prop :=
  ∃ r', said r' ∧ r = r'.map fun g => .literal (.geometry g)

variable {said : Except Finding GeometryLiteral → Prop} {inner? : Option (Translation Expression)}

theorem factor_envelope (hword : Keyword.ofText? word = some .ENVELOPE)
    (h : Concludes (Translation.envelope u) (bounds.envelopeIn word code) said) :
    Concludes (Translation.factor u levels inner?) (bounds.envelopeIn word code) (OfGeometry said) := by
  have hkeyword : (Token.word word none).keyword? = some .ENVELOPE := hword
  refine peek_bind ?_
  dsimp only
  rw [hkeyword]
  exact second_bind true (fun _ _ _ => rfl) (h.map fun r hr => ⟨r, hr, rfl⟩)

theorem factor_srid (hword : Keyword.ofText? word = some .SRID) {number : String} {long : Bool} {t : GeometryText}
    (h : Concludes (Translation.sridLiteral u levels) (sridTokens word number long t) said) :
    Concludes (Translation.factor u levels inner?) (sridTokens word number long t) (OfGeometry said) := by
  have hkeyword : (Token.word word none).keyword? = some .SRID := hword
  refine peek_bind ?_
  dsimp only
  rw [hkeyword]
  refine second_bind false (fun _ _ _ => rfl) (second_bind (some (.sign .equal)) (fun _ _ _ => rfl) ?_)
  exact h.map fun r hr => ⟨r, hr, rfl⟩

end Concludes

/-! ### Answers -/

/-- What a reference has a statement compile to: something that is made with the system, or an error about its number. -/
def Reference.Answers (reference : Reference) (statement : String) (made : Crs → α → Prop)
    (result : Except CompileFailure α) : Prop :=
  match reference with
  | known crs => ∃ a, result = .ok a ∧ made crs a
  | unknown srid e => ∃ token, result =
      .error (.error (Finding.inStatement ⟨.unresolvedSrid srid, token, some e⟩ statement))
  | unfit => ∃ token, result = .error (.error (Finding.inStatement (.invalidSrid token) statement))

theorem Reference.answers_of_qualify {reference : Reference} {statement : String} {made : Crs → α → Prop}
    {result : Except CompileFailure α} {g : Geometry} {token : SourceToken} {f : GeometryLiteral → α}
    (hresult : result = ((reference.qualify g token).map f).mapError fun finding => .error (finding.inStatement statement))
    (hmade : ∀ crs, made crs (f ⟨g, some crs⟩)) : reference.Answers statement made result := by
  cases reference with
  | known crs => exact ⟨_, hresult, hmade crs⟩
  | unknown srid e => exact ⟨token, hresult⟩
  | unfit => exact ⟨token, hresult⟩

theorem Reference.Answers.of_ok {reference : Reference} {statement : String} {made : Crs → α → Prop}
    {result : Except CompileFailure α} {a : α} (h : reference.Answers statement made result) (ha : result = .ok a) :
    ∃ crs, reference = .known crs ∧ made crs a := by
  subst ha
  cases reference with
  | known crs =>
    obtain ⟨_, hresult, hmade⟩ := h
    cases hresult
    exact ⟨crs, rfl, hmade⟩
  | unknown srid e =>
    obtain ⟨_, hresult⟩ := h
    cases hresult
  | unfit =>
    obtain ⟨_, hresult⟩ := h
    cases hresult

section Compiled

variable {resolver : CrsResolver} {bounds : Bounds} {number : String} (hnumber : IsDigits number) {statement : String}
  {L : List Lexeme} (hscan : scan statement = .ok L)

include hscan

theorem Bounds.areNumerals_of_envelopeIn {word : String} {code : Token} (htokens : tokensOf L = bounds.envelopeIn word code) :
    bounds.AreNumerals := by
  refine Bounds.areNumerals hscan ?_
  rw [htokens]
  simp only [Bounds.toList, List.forall_mem_cons]
  refine ⟨?_, ?_, ?_, ?_, List.forall_mem_nil _⟩ <;> intro token htoken <;> simp [Bounds.envelopeIn, htoken]

include hnumber

/-- An ENVELOPE with a code is qualified with the reference system of the number. -/
theorem envelopeIn_compiled {word : String} (hword : Keyword.ofText? word = some .ENVELOPE) {code : Token}
    (hcode : NamesSystem number code) (htokens : tokensOf L = bounds.envelopeIn word code) :
    ∃ g token, (g == bounds.region) = true ∧
      ((⟨.ecql, ⟨.plain, resolver⟩⟩ : Compiler).compileExpression statement).result =
        (((Reference.of resolver (digitsValue number.toList)).qualify g token).map
          fun g => .literal (.geometry g)).mapError fun finding => .error (finding.inStatement statement) := by
  set compiler : Compiler := ⟨.ecql, ⟨.plain, resolver⟩⟩
  obtain ⟨hx, hy, hx', hy'⟩ := (Bounds.areNumerals_of_envelopeIn hscan htokens).each
  obtain ⟨x, hx, hsameX⟩ := SignedNumber.readFloat_signedText hx
  obtain ⟨x', hx', hsameX'⟩ := SignedNumber.readFloat_signedText hx'
  obtain ⟨y, hy, hsameY⟩ := SignedNumber.readFloat_signedText hy
  obtain ⟨y', hy', hsameY'⟩ := SignedNumber.readFloat_signedText hy'
  have henvelope : Concludes (Translation.expression compiler.setting maxNesting) (bounds.envelopeIn word code) _ :=
    .expression (.factor_envelope hword (.envelope hcode.isCode (fun _ => rfl) hx hx' hy hy'))
  obtain ⟨_, ⟨_, ⟨place, rfl⟩, rfl⟩, hresult⟩ := henvelope.compileExpression hscan htokens
  have hqualified := hcode.qualifiedByCode_eq hnumber resolver (rectangle x x' y y') place
  exact ⟨rectangle x x' y y', _, Envelope.rectangle_same hsameX hsameX' hsameY hsameY', hqualified ▸ hresult⟩

theorem sridText_compiled {word : String} (hword : Keyword.ofText? word = some .SRID) {long : Bool} {t : GeometryText}
    (hdepth : t.depth ≤ maxNesting) {g : Geometry} (hg : t.value? = some g)
    (htokens : tokensOf L = sridTokens word number long t) :
    ∃ token, ((⟨.ecql, ⟨.plain, resolver⟩⟩ : Compiler).compileExpression statement).result =
      (((Reference.of resolver (digitsValue number.toList)).qualify g token).map
        fun g => .literal (.geometry g)).mapError fun finding => .error (finding.inStatement statement) := by
  set compiler : Compiler := ⟨.ecql, ⟨.plain, resolver⟩⟩
  have hsrid : Concludes (Translation.expression compiler.setting maxNesting) (sridTokens word number long t) _ :=
    .expression (.factor_srid hword (.sridLiteral (fun _ => rfl) rfl long hdepth hg))
  obtain ⟨_, ⟨_, ⟨place, rfl⟩, rfl⟩, hresult⟩ := hsrid.compileExpression hscan htokens
  exact ⟨_, hnumber.qualifiedByToken_eq resolver g place ▸ hresult⟩

theorem bboxIn_compiled {word : String} (hword : Keyword.ofText? word = some .BBOX) {name : AttributeName}
    (hname : name.IsAttribute .ecql) {code : Token} (hcode : NamesSystem number code)
    (htokens : tokensOf L = bounds.bboxIn word code name) :
    ∃ token, ((⟨.ecql, ⟨.plain, resolver⟩⟩ : Compiler).compileFilter statement).result =
      (((Reference.of resolver (digitsValue number.toList)).qualify bounds.region token).map
        fun g => .spatial .bbox (.property name.path) (.literal (.geometry g))).mapError
          fun finding => .error (finding.inStatement statement) := by
  set compiler : Compiler := ⟨.ecql, ⟨.plain, resolver⟩⟩
  have hu : compiler.setting.IsPlain := Compiler.isPlain_setting rfl
  have hbbox : Concludes (Translation.negation compiler.setting maxNesting) (bounds.bboxIn word code name) _ :=
    .negation_called hword nofun (.bbox hcode.isCode hu (.operand_before_comma hu hname))
  obtain ⟨_, ⟨place, rfl⟩, hresult⟩ := hbbox.filter.compileFilter hscan htokens
  exact ⟨_, hcode.qualifiedByCode_eq hnumber resolver bounds.region place ▸ hresult⟩

end Compiled

/-- **All spellings of a reference system agree.**  In the extended dialect, for every resolver, all four bounds and every
number in digits, alone or behind EPSG: the ENVELOPE of the bounds with the number, and the number in front of the text of a
polygon that is the same rectangle, all compile to equal literals in the system that the resolver knows by the number; or
the resolver does not know it, and they all fail with that number; or it does not fit in 32 bits, and they all fail for
that.  A BBOX with the number answers in the same way.  There is such a text of a polygon for all bounds of a statement. -/
theorem reference_spellings_agree (resolver : CrsResolver) (bounds : Bounds) {number : String} (hnumber : IsDigits number) :
    let compiler : Compiler := ⟨.ecql, ⟨.plain, resolver⟩⟩
    let reference := Reference.of resolver (digitsValue number.toList)
    (∀ statement L, scan statement = .ok L → RectangleIn bounds number (tokensOf L) →
      reference.Answers statement
        (fun crs x => ∃ g, x = .literal (.geometry ⟨g, some crs⟩) ∧ (g == bounds.region) = true)
        (compiler.compileExpression statement).result) ∧
    (∀ statement L statement' L', scan statement = .ok L → RectangleIn bounds number (tokensOf L) →
      scan statement' = .ok L' → RectangleIn bounds number (tokensOf L') →
      ∀ x x', (compiler.compileExpression statement).result = .ok x →
        (compiler.compileExpression statement').result = .ok x' → (x == x') = true) ∧
    (∀ statement L word code, ∀ name : AttributeName, scan statement = .ok L → Keyword.ofText? word = some .BBOX →
      name.IsAttribute .ecql → NamesSystem number code → tokensOf L = bounds.bboxIn word code name →
      reference.Answers statement
        (fun crs p => p = .spatial .bbox (.property name.path) (.literal (.geometry ⟨bounds.region, some crs⟩)))
        (compiler.compileFilter statement).result) ∧
    (reference = .unfit ↔ 2147483647 < digitsValue number.toList) ∧
    (bounds.AreNumerals → ∃ (rings : PolygonText) (region : Polygon), rings.polygon? = some region ∧
      (Geometry.polygon region == bounds.region) = true) := by
  intro compiler reference
  have hanswers : ∀ statement L, scan statement = .ok L → RectangleIn bounds number (tokensOf L) →
      reference.Answers statement
        (fun crs x => ∃ g, x = .literal (.geometry ⟨g, some crs⟩) ∧ (g == bounds.region) = true)
        (compiler.compileExpression statement).result := by
    intro statement L hscan hspelled
    generalize htokens : tokensOf L = ts at hspelled
    cases hspelled with
    | envelope hword hcode =>
      obtain ⟨g, token, hsame, hresult⟩ := envelopeIn_compiled hnumber hscan hword hcode htokens
      exact Reference.answers_of_qualify hresult fun crs => ⟨g, rfl, hsame⟩
    | @text word hword long shape rings region hrings hsame =>
      have hvalue : (GeometryText.polygon shape rings).value? = some (.polygon region) := by
        rw [GeometryText.value?, hrings]
        rfl
      obtain ⟨token, hresult⟩ := sridText_compiled hnumber hscan hword (Nat.zero_le _) hvalue htokens
      exact Reference.answers_of_qualify hresult fun crs => ⟨.polygon region, rfl, hsame⟩
  refine ⟨hanswers, ?_, ?_, Reference.of_eq_unfit_iff, Bounds.AreNumerals.exists_polygonText⟩
  · intro statement L statement' L' hscan hspelled hscan' hspelled' x x' hx hx'
    obtain ⟨crs, hknown, g, rfl, hg⟩ := (hanswers statement L hscan hspelled).of_ok hx
    obtain ⟨crs', hknown', g', rfl, hg'⟩ := (hanswers statement' L' hscan' hspelled').of_ok hx'
    obtain rfl : crs = crs' := Reference.known.inj (hknown.symm.trans hknown')
    have hsame : (GeometryLiteral.mk g (some crs) == ⟨g', some crs⟩) = true :=
      Bool.and_eq_true_iff.mpr ⟨Geometry.beq_of_polygon hg hg', beq_self_eq_true _⟩
    exact hsame
  · intro statement L word code name hscan hword hname hcode htokens
    obtain ⟨token, hresult⟩ := bboxIn_compiled hnumber hscan hword hname hcode htokens
    exact Reference.answers_of_qualify hresult fun crs => rfl

/-- A rectangle in a known system in all spellings, and a number that is too large. -/
theorem reference_spellings_agree_padded :
    let compiler : Compiler := ⟨.ecql, ⟨.plain, CrsRegistry.wellKnown.resolver⟩⟩
    (∃ x x' x'' p, (compiler.compileExpression "ENVELOPE(0, 4, 3, 1, 04326)").result = .ok x ∧
      (compiler.compileExpression "ENVELOPE(0, 4, 3, 1, 'epsg:04326')").result = .ok x' ∧
      (compiler.compileExpression "SRID=04326;POLYGON((0 1, 0 3, 4 3, 4 1, 0 1))").result = .ok x'' ∧
      (compiler.compileFilter "BBOX(a, 0, 1, 4, 3, 'EPSG:04326')").result = .ok p ∧
      (x == x') = true ∧ (x == x'') = true) ∧
    ∃ token, (compiler.compileExpression "ENVELOPE(0, 4, 3, 1, 2147483648)").result =
      .error (.error (Finding.inStatement (.invalidSrid token) "ENVELOPE(0, 4, 3, 1, 2147483648)")) := by
  intro compiler
  let lexemes (statement : String) : List Lexeme := (scan statement).toOption.getD []
  let zero : SignedNumber := ⟨false, "0", false, .integer 0, rfl⟩
  let one : SignedNumber := ⟨false, "1", false, .integer 1, rfl⟩
  let three : SignedNumber := ⟨false, "3", false, .integer 3, rfl⟩
  let four : SignedNumber := ⟨false, "4", false, .integer 4, rfl⟩
  let bounds : Bounds := ⟨zero, one, four, three⟩
  let rings : PolygonText := ⟨⟨⟨zero, one⟩, [⟨zero, three⟩, ⟨four, three⟩, ⟨four, one⟩, ⟨zero, one⟩]⟩, []⟩
  obtain ⟨region, hrings, hsame⟩ : ∃ region, rings.polygon? = some region ∧
      (Geometry.polygon region == bounds.region) = true := (Option.any_eq_true _ _).mp (by decide +kernel)
  have henvelope : ∀ number statement code, NamesSystem number code →
      tokensOf (lexemes statement) = bounds.envelopeIn "ENVELOPE" code →
        RectangleIn bounds number (tokensOf (lexemes statement)) :=
    fun number statement code hcode htokens => htokens ▸ .envelope (by decide +kernel) hcode
  have htext : RectangleIn bounds "04326" (tokensOf (lexemes "SRID=04326;POLYGON((0 1, 0 3, 4 3, 4 1, 0 1))")) := by
    have htokens : tokensOf (lexemes "SRID=04326;POLYGON((0 1, 0 3, 4 3, 4 1, 0 1))") =
        sridTokens "SRID" "04326" false (.polygon ⟨"POLYGON", by decide +kernel⟩ rings) := by decide +kernel
    exact htokens ▸ .text (by decide +kernel) false _ hrings hsame
  have hpadded : IsDigits "04326" := ⟨by decide, List.all_eq_true.mp (by decide)⟩
  have hlarge : IsDigits "2147483648" := ⟨by decide, List.all_eq_true.mp (by decide)⟩
  have hknown : Reference.of CrsRegistry.wellKnown.resolver (digitsValue "04326".toList) = .known ⟨4326, "WGS 84"⟩ := rfl
  have hunfit : Reference.of CrsRegistry.wellKnown.resolver (digitsValue "2147483648".toList) = .unfit := rfl
  obtain ⟨hanswers, hequal, hbbox, -, -⟩ :=
    reference_spellings_agree CrsRegistry.wellKnown.resolver bounds hpadded
  have hnumber := henvelope "04326" "ENVELOPE(0, 4, 3, 1, 04326)" _ (.number false) (by decide +kernel)
  have hcode := henvelope "04326" "ENVELOPE(0, 4, 3, 1, 'epsg:04326')" (.quoted ("epsg" ++ ":" ++ "04326"))
    (.code (by decide +kernel)) (by decide +kernel)
  have hscan : scan "ENVELOPE(0, 4, 3, 1, 04326)" = .ok (lexemes "ENVELOPE(0, 4, 3, 1, 04326)") := by decide +kernel
  have hscan' : scan "ENVELOPE(0, 4, 3, 1, 'epsg:04326')" = .ok (lexemes "ENVELOPE(0, 4, 3, 1, 'epsg:04326')") := by
    decide +kernel
  have hscan'' : scan "SRID=04326;POLYGON((0 1, 0 3, 4 3, 4 1, 0 1))" =
    .ok (lexemes "SRID=04326;POLYGON((0 1, 0 3, 4 3, 4 1, 0 1))") := by decide +kernel
  rw [hknown] at hanswers hbbox
  obtain ⟨x, hx, -⟩ := hanswers _ _ hscan hnumber
  obtain ⟨x', hx', -⟩ := hanswers _ _ hscan' hcode
  obtain ⟨x'', hx'', -⟩ := hanswers _ _ hscan'' htext
  obtain ⟨p, hp, -⟩ := hbbox "BBOX(a, 0, 1, 4, 3, 'EPSG:04326')" (lexemes "BBOX(a, 0, 1, 4, 3, 'EPSG:04326')") "BBOX"
    (.quoted ("EPSG" ++ ":" ++ "04326")) ⟨"a", none, []⟩ (by decide +kernel) (by decide +kernel)
    (fun _ => by decide +kernel) (.code (by decide +kernel)) (by decide +kernel)
  refine ⟨⟨x, x', x'', p, hx, hx', hx'', hp, hequal _ _ _ _ hscan hnumber hscan' hcode x x' hx hx',
    hequal _ _ _ _ hscan hnumber hscan'' htext x x'' hx hx''⟩, ?_⟩
  obtain ⟨hfails, -⟩ := reference_spellings_agree CrsRegistry.wellKnown.resolver bounds hlarge
  rw [hunfit] at hfails
  exact hfails _ (lexemes "ENVELOPE(0, 4, 3, 1, 2147483648)") (by decide +kernel)
    (henvelope "2147483648" "ENVELOPE(0, 4, 3, 1, 2147483648)" _ (.number false) (by decide +kernel))

end GeoFilter
