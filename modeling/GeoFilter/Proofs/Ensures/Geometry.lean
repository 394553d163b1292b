import GeoFilter.Proofs.Comparison.Expression
import GeoFilter.Proofs.Ensures
import GeoFilter.Proofs.Framing
import GeoFilter.Proofs.Rereading.Tree

/-!
# What geometries are like

The numbers, geometries and reference systems that are translated are as filters show them: finite numbers, lines,
closed rings and members, and systems that their numbers stand for.
-/

namespace GeoFilter

open Translation (read)

variable {u : Setting} {sound : Token → Prop} {start : List Token → Prop}

/-! ### Numbers -/

theorem ensures_signed : Ensures sound start (read Grammar.signed) fun n =>
    ∃ long, sound (.number n.2.text long) := by
  rw [Grammar.signed, Translation.read_phrase_bind]
  refine (Ensures.accept .minus).bind fun minus? _ => ?_
  rw [Translation.read_phrase_bind]
  refine (Ensures.expectIf Grammar.isNumber "a number").map fun number hnumber => ?_
  obtain ⟨token, _, _, hsound, hsort, htext⟩ := hnumber
  cases token with
  | number text long => exact ⟨long, htext ▸ hsound⟩
  | _ => cases hsort

theorem ensures_sign (minus? : Option SourceToken) (token : SourceToken) (n : Number) :
    Ensures sound start (Translation.sign u minus? token n) fun v =>
      if minus?.isSome then n.negate? = some v else v = n := by
  intro input v rest hinput _ hread
  obtain ⟨rfl, hv⟩ := Translation.sign_eq_ok hread
  exact ⟨hv, hinput⟩

/-- Whether a number is read from a sound token, with or without a sign in front of it. -/
def Number.IsReadFrom (sound : Token → Prop) (v : Number) : Prop :=
  ∃ n : SignedNumber, n.value = v ∧ sound (.number n.text n.long)

theorem Number.isReadFrom_of_sign {n : Option SourceToken × SourceToken} {v w : Number}
    (hsound : ∃ long, sound (.number n.2.text long)) (hv : Number.readLiteral? n.2.text = some v)
    (hw : if n.1.isSome then v.negate? = some w else w = v) : w.IsReadFrom sound := by
  obtain ⟨long, hsound⟩ := hsound
  have hreads : Number.readSigned? n.1.isSome n.2.text = some w := by
    rw [Number.readSigned?, hv]
    split at hw
    case isTrue hminus => rwa [if_pos hminus]
    case isFalse hplus => rw [if_neg hplus, hw]
  exact ⟨⟨n.1.isSome, n.2.text, long, w, hreads⟩, rfl, hsound⟩

theorem ensures_signedLiteral : Ensures sound start (Translation.signedLiteral u) (Number.IsReadFrom sound) := by
  refine ensures_signed.bind fun n hn => ?_
  have hread : Ensures sound Anything
      (Translation.complete u (if Grammar.isFloatingText n.2.text then .floatingLiteral else .integerLiteral) [n.2]
        (numberOf Number.readLiteral? n.2))
      fun v => Number.readLiteral? n.2.text = some v :=
    Ensures.complete _ _ fun v hv => orFinding_eq_ok hv
  exact hread.bind fun v hv => (ensures_sign n.1 n.2 v).mono fun w hw => Number.isReadFrom_of_sign hn hv hw

def Number.Plain (v : Number) : Prop := v.IsLiteral ∧ v.toFloat.isFinite = true

theorem Number.IsReadFrom.plain {v : Number} (h : v.IsReadFrom Token.IsPlain) : v.Plain := by
  obtain ⟨n, rfl, hnumeral, hfinite⟩ := h
  exact ⟨n.isLiteral hnumeral hfinite, n.isFinite_toFloat hnumeral hfinite⟩

theorem ensures_signedNumber (production : Production) :
    Ensures Token.IsPlain start (Translation.signedNumber u production) fun x => x.1.Plain := by
  refine ensures_signed.bind fun n hn => ?_
  have hread : Ensures Token.IsPlain Anything
      (Translation.complete u production [n.2] (numberOf Number.readIntegral? n.2))
      fun v => Number.readLiteral? n.2.text = some v := by
    refine Ensures.complete _ _ fun v hv => ?_
    rw [Number.readLiteral_eq]
    exact orFinding_eq_ok hv
  exact hread.bind fun v hv => (ensures_sign n.1 n.2 v).map fun w hw => (Number.isReadFrom_of_sign hn hv hw).plain

/-! ### Geometry texts -/

theorem ensures_coordinate : Ensures Token.IsPlain start (Translation.coordinate u) Coordinate.IsFinite :=
  (ensures_signedNumber _).bind fun _ hx => (ensures_signedNumber _).bind fun _ hy =>
    .complete_ok _ _ ⟨hx.2, hy.2⟩

theorem orDegenerate_eq_ok {token : SourceToken} {r : Except GeometryError α} {a : α}
    (h : orDegenerate token r = .ok a) : r = .ok a := by
  cases r with
  | ok a' =>
    cases h
    rfl
  | error e => cases h

theorem ensures_lineBody (role : GeometryRole) (token : SourceToken) :
    Ensures Token.IsPlain start (Translation.lineBody u role token) LineString.IsFinite := by
  refine (Ensures.parenthesized (.commaSeparated ensures_coordinate)).bind fun ps hps => ?_
  refine Ensures.complete _ _ fun line hline => ?_
  have hpoints := orDegenerate_eq_ok hline
  unfold LineString.ofPoints at hpoints
  split at hpoints
  · cases hpoints
    exact hps
  · cases hpoints

theorem ensures_ring : Ensures Token.IsPlain start (Translation.ring u) LineString.IsFinite :=
  .here_bind fun token => ensures_lineBody .ring token

theorem ensures_polygonBody (role : GeometryRole) (token : SourceToken) :
    Ensures Token.IsPlain start (Translation.polygonBody u role token) Polygon.Compiled := by
  refine (Ensures.parenthesized (.commaSeparated ensures_ring)).bind fun lines hlines => ?_
  refine Ensures.complete _ _ fun region hregion => ?_
  have hrings := orDegenerate_eq_ok hregion
  unfold Polygon.ofRings at hrings
  split at hrings
  case h_1 => cases hrings
  case h_2 hfault =>
    cases hrings
    exact fun ring hring => ⟨hlines ring hring, List.findSome?_eq_none_iff.mp hfault ring hring⟩

theorem ensures_memberPoint : Ensures Token.IsPlain start (Translation.memberPoint u) Coordinate.IsFinite :=
  .here_bind fun _ => .acceptIf_bind
    (fun _ => ensures_coordinate.bind fun _ hp => (Ensures.require _).bind fun _ _ => .complete_ok _ _ hp)
    (ensures_coordinate.bind fun _ hp => .complete_ok _ _ hp)

theorem ensures_memberLine : Ensures Token.IsPlain start (Translation.memberLine u) LineString.IsFinite :=
  .here_bind fun token => ensures_lineBody _ token

theorem ensures_memberPolygon : Ensures Token.IsPlain start (Translation.memberPolygon u) Polygon.Compiled :=
  .here_bind fun token => ensures_polygonBody _ token

theorem ensures_shapeBody {member? : Option (Translation Geometry)}
    (hmember : ∀ member, member? = some member → Ensures Token.IsPlain Anything member Geometry.Compiled)
    (role : GeometryRole) (token : SourceToken) (shape : Shape) :
    Ensures Token.IsPlain start (Translation.shapeBody u member? role token shape) Geometry.Compiled := by
  cases shape with
  | point => exact ensures_coordinate.parenthesized.bind fun p hp => .complete_ok _ _ (.point hp)
  | lineString => exact (ensures_lineBody role token).map fun line hline => .lineString hline
  | polygon => exact (ensures_polygonBody role token).map fun region hregion => .polygon hregion
  | multiPoint =>
    exact (Ensures.commaSeparated ensures_memberPoint).parenthesized.bind fun ps hps =>
      .complete_ok _ _ (.multiPoint (List.cons_ne_nil _ _) hps)
  | multiLineString =>
    exact (Ensures.commaSeparated ensures_memberLine).parenthesized.bind fun lines hlines =>
      .complete_ok _ _ (.multiLineString (List.cons_ne_nil _ _) hlines)
  | multiPolygon =>
    exact (Ensures.commaSeparated ensures_memberPolygon).parenthesized.bind fun regions hregions =>
      .complete_ok _ _ (.multiPolygon (List.cons_ne_nil _ _) hregions)
  | collection =>
    refine (Ensures.complete_ok (Q := fun _ => True) _ _ trivial).bind fun _ _ => ?_
    exact (Ensures.commaSeparated (.nested hmember token)).parenthesized.bind fun gs hgs =>
      .complete_ok _ _ (.collection (List.cons_ne_nil _ _) hgs)

theorem ensures_shapeText {member? : Option (Translation Geometry)}
    (hmember : ∀ member, member? = some member → Ensures Token.IsPlain Anything member Geometry.Compiled)
    (role : GeometryRole) :
    Ensures Token.IsPlain start (Translation.shapeText u member? role) Geometry.Compiled := by
  refine .peek_bind fun token? => ?_
  split
  · exact (Ensures.next _).bind fun token _ => ensures_shapeBody hmember role token _
  · exact .unexpected _

theorem ensures_geometryText (levels : Nat) (role : GeometryRole) :
    Ensures Token.IsPlain start (Translation.geometryText u levels role) Geometry.Compiled := by
  induction levels generalizing start role with
  | zero =>
    refine ensures_shapeText ?_ role
    rintro _ ⟨⟩
  | succ levels ih =>
    refine ensures_shapeText ?_ role
    rintro _ ⟨⟩
    exact ih .collectionMember

theorem ensures_geometryLiteral (levels : Nat) :
    Ensures Token.IsPlain start (Translation.geometryLiteral u levels) Geometry.Compiled :=
  .here_bind fun _ => (ensures_geometryText levels .root).bind fun _ hg => .complete_ok _ _ hg

/-! ### Reference systems -/

section Qualified

variable (hknown : ∀ srid crs, u.kit.resolver srid = .ok crs → crs.IsKnown u.kit.resolver)

include hknown

theorem compiled_of_qualified {g : Geometry} (hg : g.Compiled) {srid : Int32} {token : SourceToken}
    {l : GeometryLiteral} (h : qualified u.kit.resolver g srid token = .ok l) :
    (Literal.geometry l).Compiled u.kit.resolver := by
  unfold qualified at h
  split at h
  case h_1 crs hcrs =>
    cases h
    refine ⟨hg, ?_⟩
    rintro _ ⟨⟩
    exact hknown _ _ hcrs
  case h_2 => cases h

theorem ensures_sridLiteral (hecql : u.dialect = .ecql) (levels : Nat) :
    Ensures Token.IsPlain start (Translation.sridLiteral u levels) fun l =>
      (Literal.geometry l).Compiled u.kit.resolver := by
  refine (Ensures.next _).bind fun keyword _ => (Ensures.require _).bind fun _ _ => ?_
  rw [hecql]
  refine ensures_signed.bind fun srid _ => (Ensures.require _).bind fun _ _ => ?_
  refine (ensures_geometryLiteral levels).bind fun g hg => Ensures.complete _ _ fun l hl => ?_
  unfold qualifiedByToken at hl
  split at hl
  case h_1 => exact compiled_of_qualified hknown hg hl
  case h_2 => cases hl

/-! ### Rectangles -/

omit hknown in
theorem ensures_plainGeometry (levels : Nat) :
    Ensures Token.IsPlain start (Translation.plainGeometry u levels) fun x =>
      ∃ l : Literal, x = .literal l ∧ l.Compiled u.kit.resolver :=
  (ensures_geometryLiteral levels).map fun _ hg => ⟨_, rfl, hg, nofun⟩

omit hknown in
theorem isFinite_least {x y : Float} (hx : x.isFinite = true) (hy : y.isFinite = true) :
    (Floating.least x y).isFinite = true := by
  unfold Floating.least
  split
  · exact hy
  · split
    · exact hy
    · exact hx

omit hknown in
theorem isFinite_greatest {x y : Float} (hx : x.isFinite = true) (hy : y.isFinite = true) :
    (Floating.greatest x y).isFinite = true := by
  unfold Floating.greatest
  split
  · exact hy
  · split
    · exact hy
    · exact hx

omit hknown in
theorem compiled_rectangle {x x' y y' : Float} (hx : x.isFinite = true) (hx' : x'.isFinite = true)
    (hy : y.isFinite = true) (hy' : y'.isFinite = true) : (rectangle x x' y y').Compiled := by
  have hminX := isFinite_least hx hx'
  have hmaxX := isFinite_greatest hx' hx
  have hminY := isFinite_least hy hy'
  have hmaxY := isFinite_greatest hy' hy
  refine .polygon fun ring hring => ?_
  obtain rfl := List.mem_singleton.mp hring
  constructor
  · intro p hp
    simp only [Polygon.rectangle, Envelope.between, List.mem_cons, List.not_mem_nil, or_false] at hp
    rcases hp with rfl | rfl | rfl | rfl | rfl
    · exact ⟨hminX, hminY⟩
    · exact ⟨hminX, hmaxY⟩
    · exact ⟨hmaxX, hmaxY⟩
    · exact ⟨hmaxX, hminY⟩
    · exact ⟨hminX, hminY⟩
  · have hclosed : (Polygon.rectangle (Envelope.between x x' y y')).shell.isClosed = true := by
      change ((Floating.least x x' == Floating.least x x') && (Floating.least y y' == Floating.least y y')) = true
      rw [beq_self_of_isFinite hminX, beq_self_of_isFinite hminY]
      rfl
    have henough : ¬(Polygon.rectangle (Envelope.between x x' y y')).shell.points.length < minRingPoints := by
      simp [Polygon.rectangle, minRingPoints]
    rw [LineString.ringFault?, if_neg henough, if_pos hclosed]

omit hknown in
theorem readFloat_minus {text : String} (h : Numeral text.toList) :
    Decimal.readFloat? ("-" ++ text) = (Decimal.readFloat? text).map fun x => -x := by
  have hminus : Decimal.splitSign ('-' :: text.toList) = (true, text.toList) := rfl
  rw [Decimal.readFloat?, Decimal.readFloat?, Numeral.toList_minus, hminus, h.unsigned, Option.map_map]
  rfl

omit hknown in
theorem ensures_envelopeBound (hecql : u.dialect = .ecql) :
    Ensures Token.IsPlain start (Translation.envelopeBound u) fun token =>
      ∀ x, boundOf token = .ok x → x.isFinite = true := by
  unfold Translation.envelopeBound
  rw [hecql]
  refine ensures_signed.map fun n hn x hx => ?_
  obtain ⟨long, hnumeral, hfinite⟩ := hn
  have hread := orFinding_eq_ok hx
  rcases n with ⟨_ | minus, number⟩
  · exact hfinite x hread
  · have hnegated : Decimal.readFloat? ("-" ++ number.text) = some x := hread
    rw [readFloat_minus hnumeral] at hnegated
    obtain ⟨y, hy, rfl⟩ := Option.map_eq_some_iff.mp hnegated
    exact isFinite_neg (hfinite y hy)

theorem compiled_of_qualifiedByCode {g : Geometry} (hg : g.Compiled) {code : Option SourceToken}
    {l : GeometryLiteral} (h : qualifiedByCode u.kit.resolver g code = .ok l) :
    (Literal.geometry l).Compiled u.kit.resolver := by
  unfold qualifiedByCode at h
  split at h
  case h_1 =>
    cases h
    exact ⟨hg, nofun⟩
  case h_2 =>
    split at h
    · exact compiled_of_qualified hknown hg h
    · cases h

omit hknown in
theorem except_bind_eq_ok {x : Except ε α} {f : α → Except ε β} {b : β} (h : x >>= f = .ok b) :
    ∃ a, x = .ok a ∧ f a = .ok b := by
  cases x with
  | ok a => exact ⟨a, rfl, h⟩
  | error e => cases h

theorem compiled_of_rectangleOf {west east north south : SourceToken} {code : Option SourceToken} {l : GeometryLiteral}
    (hwest : ∀ x, boundOf west = .ok x → x.isFinite = true) (heast : ∀ x, boundOf east = .ok x → x.isFinite = true)
    (hnorth : ∀ x, boundOf north = .ok x → x.isFinite = true)
    (hsouth : ∀ x, boundOf south = .ok x → x.isFinite = true)
    (h : rectangleOf u.kit.resolver west east north south code = .ok l) :
    (Literal.geometry l).Compiled u.kit.resolver := by
  unfold rectangleOf at h
  obtain ⟨minX, hminX, h⟩ := except_bind_eq_ok h
  obtain ⟨maxX, hmaxX, h⟩ := except_bind_eq_ok h
  obtain ⟨maxY, hmaxY, h⟩ := except_bind_eq_ok h
  obtain ⟨minY, hminY, h⟩ := except_bind_eq_ok h
  exact compiled_of_qualifiedByCode hknown (compiled_rectangle (hwest _ hminX) (heast _ hmaxX) (hsouth _ hminY) (hnorth _ hmaxY)) h

theorem ensures_envelope (hecql : u.dialect = .ecql) :
    Ensures Token.IsPlain start (Translation.envelope u) fun l => (Literal.geometry l).Compiled u.kit.resolver := by
  refine (Ensures.next _).bind fun keyword _ => (Ensures.require _).bind fun _ _ => ?_
  refine (ensures_envelopeBound hecql).bind fun west hwest => (Ensures.require _).bind fun _ _ => ?_
  refine (ensures_envelopeBound hecql).bind fun east heast => (Ensures.require _).bind fun _ _ => ?_
  refine (ensures_envelopeBound hecql).bind fun north hnorth => (Ensures.require _).bind fun _ _ => ?_
  refine (ensures_envelopeBound hecql).bind fun south hsouth => (Ensures.shortens shortens_referenceSystem).bind fun code _ => ?_
  refine (Ensures.require _).bind fun _ _ => Ensures.complete _ _ fun l hl => ?_
  exact compiled_of_rectangleOf hknown hwest heast hnorth hsouth hl

end Qualified

end GeoFilter
