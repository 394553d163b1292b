import GeoFilter.Proofs.GeometryText
import GeoFilter.Proofs.Numeral
import GeoFilter.Proofs.Yield

/-!
# Reading geometry texts

What the translations of geometry text make of the tokens of a `GeometryText`: the geometry that it writes, or
the finding that its coordinates make none.  What stands behind a text makes no difference.
-/

namespace GeoFilter

open Translation (read bind_of_ok read_of_ok complete_of_permits)

variable {u : Setting} (hpermits : ∀ red, u.permits red = true)

include hpermits

/-! ### Coordinates -/

theorem signedNumber_complete (production : Production) (n : SignedNumber) {input : List Lexeme}
    {r : List Token} (h : tokensOf input = n.tokens ++ r) :
    ∃ signed rest, Translation.signedNumber u production input = .ok ((n.value, signed), rest) ∧
      (Grammar.withSign signed).text = n.signedText ∧ tokensOf rest = r := by
  obtain ⟨minus?, token, v, rest, hsigned, htext, hnumber, hsign, hrest⟩ := signed_complete hpermits n h
  have hread : numberOf Number.readIntegral? token = .ok v := by
    rw [← hnumber, numberOf, numberOf, Number.readLiteral_eq]
  refine ⟨(minus?, token), rest, ?_, htext, hrest⟩
  rw [Translation.signedNumber, bind_of_ok (read_of_ok hsigned), hread,
    bind_of_ok (complete_of_permits (hpermits _) _ _), bind_of_ok hsign]
  rfl

theorem yields_coordinate (p : Position) :
    Yields (Translation.coordinate u) p.tokens Anything (some p.coordinate) := by
  intro input r htokens _
  rw [Position.tokens, List.append_assoc] at htokens
  obtain ⟨signed, mid, hx, _, hmid⟩ := signedNumber_complete hpermits .ordinate p.x htokens
  obtain ⟨_, rest, hy, _, hrest⟩ := signedNumber_complete hpermits .ordinate p.y hmid
  refine ⟨rest, ?_, hrest⟩
  rw [Translation.coordinate, bind_of_ok hx]
  dsimp only
  rw [bind_of_ok hy]
  exact complete_of_permits (hpermits _) _ _

/-! ### Rows -/

omit hpermits in
theorem yields_row {item : Translation β} {tokens : α → List Token} {value? : α → Option β} {row : Row α}
    {f : β × List β → Translation γ} {g : Row β → Option γ}
    (hitem : ∀ a ∈ row.toList, Yields item (tokens a) Anything (value? a))
    (hf : ∀ values : Row β, Yields (f (values.first, values.others)) [] Anything (g values)) :
    Yields (Translation.parenthesized (Translation.commaSeparated item) >>= f) (row.tokens tokens) Anything
      ((row.values? value?).bind g) := by
  have hvalues : (row.values? value?).bind g =
      ((value? row.first).bind fun b => (row.others.mapM value?).map fun bs => (b, bs)).bind
        fun v => g ⟨v.1, v.2⟩ := by
    rw [Row.values?]
    cases value? row.first <;> cases row.others.mapM value? <;> rfl
  have hcomma : Sign.comma ∉ [Sign.rightParen] := by decide
  have hitems := Yields.commaSeparated hcomma fun a ha => (hitem a ha).mono fun _ _ => trivial
  rw [hvalues]
  exact hitems.parenthesized.bind_pure fun v _ => hf ⟨v.1, v.2⟩

theorem yields_lineBody (role : GeometryRole) (token : SourceToken) (points : LineText) :
    Yields (Translation.lineBody u role token) (points.tokens Position.tokens) Anything points.line? := by
  have hline : points.line? = (points.values? fun p => some p.coordinate).bind
      fun values => (LineString.ofPoints values.toList).toOption := by
    rw [Row.values?_some]
    rfl
  rw [hline]
  exact yields_row (fun p _ => yields_coordinate hpermits p) fun _ => .complete_orDegenerate hpermits _ _ _ _

theorem yields_ring (points : LineText) :
    Yields (Translation.ring u) (points.tokens Position.tokens) Anything points.line? :=
  .here_bind (List.cons_ne_nil _ _) fun token => yields_lineBody hpermits .ring token points

theorem yields_polygonBody (role : GeometryRole) (token : SourceToken) (rings : PolygonText) :
    Yields (Translation.polygonBody u role token) (rings.tokens (Row.tokens Position.tokens)) Anything
      rings.polygon? :=
  yields_row (fun points _ => yields_ring hpermits points) fun _ => .complete_orDegenerate hpermits _ _ _ _

/-! ### Members -/

omit hpermits in
theorem Position.tokens_cons (p : Position) :
    ∃ token ts, p.tokens = token :: ts ∧ (token == .sign .leftParen) = false := by
  obtain ⟨⟨negative, text, long, value, hreads⟩, y⟩ := p
  cases negative with
  | false => exact ⟨_, _, rfl, rfl⟩
  | true => exact ⟨_, _, rfl, rfl⟩

theorem yields_memberPoint (m : MemberPosition) :
    Yields (Translation.memberPoint u) m.tokens Anything (some m.position.coordinate) := by
  obtain ⟨p, enclosed⟩ := m
  obtain ⟨token, ts, hp, hparen⟩ := p.tokens_cons
  cases enclosed with
  | false =>
    have hne : p.tokens ≠ [] := by simp [hp]
    refine .here_bind hne fun _ => .acceptIf_none_bind (fun r _ => ?_) ?_
    · intro token' htoken'
      have htokens : MemberPosition.tokens ⟨p, false⟩ = token :: ts := hp
      rw [htokens] at htoken'
      cases htoken'
      exact hparen
    · exact (yields_coordinate hpermits p).bind_pure fun _ _ => .complete hpermits _ _ _
  | true =>
    refine .here_bind (List.cons_ne_nil _ _) fun _ => .acceptIf_bind rfl fun _ => ?_
    exact (yields_coordinate hpermits p).bind
      (fun _ _ => .require_bind (.complete hpermits _ _ _)) fun _ _ => trivial

theorem yields_memberLine (points : LineText) :
    Yields (Translation.memberLine u) (points.tokens Position.tokens) Anything points.line? :=
  .here_bind (List.cons_ne_nil _ _) fun token => yields_lineBody hpermits _ token points

theorem yields_memberPolygon (rings : PolygonText) :
    Yields (Translation.memberPolygon u) (rings.tokens (Row.tokens Position.tokens)) Anything rings.polygon? :=
  .here_bind (List.cons_ne_nil _ _) fun token => yields_polygonBody hpermits _ token rings

/-! ### Texts -/

def GeometryText.members : GeometryText → List GeometryText
  | .collection _ first others => first :: others
  | _ => []

theorem yields_shapeBody {member? : Option (Translation Geometry)} (role : GeometryRole) (t : GeometryText)
    (hmembers : ∀ m ∈ t.members, ∀ opener,
      Yields (Translation.nested member? opener) m.tokens Anything m.value?) :
    ∃ shape text ts, Keyword.ofText? text = some (.shape shape) ∧
      t.tokens = .word text none :: .sign .leftParen :: ts ∧
      ∀ token, Yields (Translation.shapeBody u member? role token shape) (.sign .leftParen :: ts) Anything
        t.value? := by
  cases t with
  | point word p =>
    refine ⟨_, _, _, word.names, rfl, fun token => ?_⟩
    have hp : Yields (Translation.coordinate u) p.tokens (Followed [.rightParen]) (some p.coordinate) :=
      (yields_coordinate hpermits p).mono fun _ _ => trivial
    exact hp.parenthesized.bind_pure fun _ _ => .complete hpermits _ _ _
  | lineString word points =>
    exact ⟨_, _, _, word.names, rfl, fun token => (yields_lineBody hpermits role token points).map _⟩
  | polygon word rings =>
    exact ⟨_, _, _, word.names, rfl, fun token => (yields_polygonBody hpermits role token rings).map _⟩
  | multiPoint word points =>
    refine ⟨_, _, _, word.names, rfl, fun token => ?_⟩
    have hpoints : (GeometryText.multiPoint word points).value? =
        (points.values? fun m => some m.position.coordinate).bind fun ps => some (.multiPoint ps.toList) := by
      rw [Row.values?_some]
      rfl
    rw [hpoints]
    exact yields_row (fun m _ => yields_memberPoint hpermits m) fun _ => .complete hpermits _ _ _
  | multiLineString word lines =>
    refine ⟨_, _, _, word.names, rfl, fun token => ?_⟩
    rw [GeometryText.value?, Option.map_eq_bind]
    exact yields_row (fun points _ => yields_memberLine hpermits points) fun _ => .complete hpermits _ _ _
  | multiPolygon word polygons =>
    refine ⟨_, _, _, word.names, rfl, fun token => ?_⟩
    rw [GeometryText.value?, Option.map_eq_bind]
    exact yields_row (fun rings _ => yields_memberPolygon hpermits rings) fun _ => .complete hpermits _ _ _
  | collection word first others =>
    refine ⟨_, _, _, word.names, rfl, fun token => ?_⟩
    have hstart : Yields (Translation.complete u .collectionStart [token] (.ok ())) [] Anything (some ()) :=
      .complete hpermits _ _ _
    refine hstart.bind_nil ?_ fun _ _ => trivial
    have hvalue : (GeometryText.collection word first others).value? =
        (Row.values? GeometryText.value? ⟨first, others⟩).bind fun gs => some (.collection gs.toList) := by
      rw [GeometryText.value?, Row.values?, GeometryText.values?_eq]
      cases first.value? <;> cases others.mapM GeometryText.value? <;> rfl
    have hrow : Yields (Translation.parenthesized (Translation.commaSeparated (Translation.nested member? token)) >>=
          fun gs => Translation.complete u (.collectionText role) [token] (.ok (Geometry.collection (gs.1 :: gs.2))))
        (Row.tokens GeometryText.tokens ⟨first, others⟩) Anything
        ((Row.values? GeometryText.value? ⟨first, others⟩).bind fun gs => some (Geometry.collection gs.toList)) :=
      yields_row (fun m hm => hmembers m hm token) fun _ => .complete hpermits _ _ _
    rw [hvalue, GeometryText.moreTokens_eq]
    exact hrow

theorem yields_shapeText {member? : Option (Translation Geometry)} (role : GeometryRole) (t : GeometryText)
    (hmembers : ∀ m ∈ t.members, ∀ opener,
      Yields (Translation.nested member? opener) m.tokens Anything m.value?) :
    Yields (Translation.shapeText u member? role) t.tokens Anything t.value? := by
  obtain ⟨shape, text, ts, hword, htokens, hbody⟩ := yields_shapeBody hpermits role t hmembers
  have hkeyword : (some (Token.word text none)).bind Token.keyword? = some (.shape shape) := hword
  rw [htokens]
  refine .peek_bind ?_
  rw [hkeyword]
  exact .next_bind fun place => hbody _

omit hpermits in
theorem GeometryText.depth_member {t m : GeometryText} (hm : m ∈ t.members) : m.depth < t.depth := by
  cases t with
  | collection word first others =>
    rw [depth, Nat.lt_succ_iff]
    rcases List.mem_cons.mp hm with rfl | hm
    · exact Nat.le_max_left _ _
    · exact Nat.le_trans (depth_le_depthOfAll hm) (Nat.le_max_right _ _)
  | _ => cases hm

theorem yields_geometryText (levels : Nat) (role : GeometryRole) (t : GeometryText) (hdepth : t.depth ≤ levels) :
    Yields (Translation.geometryText u levels role) t.tokens Anything t.value? := by
  induction levels generalizing role t with
  | zero =>
    rw [Translation.geometryText]
    refine yields_shapeText hpermits role t fun m hm => ?_
    exact absurd (Nat.lt_of_lt_of_le (GeometryText.depth_member hm) hdepth) (Nat.not_lt_zero _)
  | succ levels ih =>
    rw [Translation.geometryText]
    refine yields_shapeText hpermits role t fun m hm _ => ih _ m ?_
    exact Nat.le_of_lt_succ (Nat.lt_of_lt_of_le (GeometryText.depth_member hm) hdepth)

/-! ### Expressions -/

omit hpermits in
theorem GeometryText.tokens_cons (t : GeometryText) :
    ∃ shape text ts, Keyword.ofText? text = some (.shape shape) ∧
      t.tokens = .word text none :: .sign .leftParen :: ts := by
  cases t with
  | _ word => exact ⟨_, _, _, word.names, rfl⟩

theorem yields_geometryLiteral {levels : Nat} {t : GeometryText} (hdepth : t.depth ≤ levels) :
    Yields (Translation.geometryLiteral u levels) t.tokens Anything t.value? := by
  have hne : t.tokens ≠ [] := by
    obtain ⟨_, _, _, _, htokens⟩ := t.tokens_cons
    simp [htokens]
  have hliteral : Yields (Translation.geometryLiteral u levels) t.tokens Anything (t.value?.bind some) :=
    .here_bind hne fun _ => (yields_geometryText hpermits levels .root t hdepth).bind_pure fun g _ =>
      .complete hpermits _ _ g
  rwa [Option.bind_fun_some] at hliteral

theorem yields_plainGeometry {levels : Nat} {t : GeometryText} (hdepth : t.depth ≤ levels) :
    Yields (Translation.plainGeometry u levels) t.tokens Anything
      (t.value?.map fun g => .literal (.geometry ⟨g, none⟩)) :=
  (yields_geometryLiteral hpermits hdepth).map _

theorem yields_factor {levels : Nat} {inner? : Option (Translation Expression)} {t : GeometryText}
    (hdepth : t.depth ≤ levels) :
    Yields (Translation.factor u levels inner?) t.tokens Anything
      (t.value?.map fun g => .literal (.geometry ⟨g, none⟩)) := by
  have hgeometry := yields_plainGeometry hpermits hdepth
  obtain ⟨shape, text, ts, hword, htokens⟩ := t.tokens_cons
  have hkeyword : (Token.word text none).keyword? = some (.shape shape) := hword
  rw [htokens] at hgeometry ⊢
  refine .peek_bind ?_
  dsimp only
  rw [hkeyword]
  have hcalled : ∀ r, Anything r →
      ((Token.word text none :: .sign .leftParen :: ts ++ r).tail.head? == some (.sign .leftParen)) = true :=
    fun _ _ => rfl
  exact .parenFollows_bind hcalled hgeometry

/-- A geometry text behind the number of its reference system is an operand of an expression of the extended dialect. -/
theorem yields_factor_srid (hecql : u.dialect = .ecql) {levels : Nat} {inner? : Option (Translation Expression)}
    {t : GeometryText} (hdepth : t.depth ≤ levels) {g : Geometry} (hg : t.value? = some g) {number : String} {long : Bool}
    {l : GeometryLiteral} (hl : ∀ place, qualifiedByToken u.kit.resolver g ⟨number, place⟩ = .ok l) :
    Yields (Translation.factor u levels inner?)
      (.word "SRID" none :: .sign .equal :: .number number long :: .sign .semicolon :: t.tokens) Anything
      (some (.literal (.geometry l))) := by
  have hgeometry := yields_geometryLiteral hpermits hdepth
  rw [hg] at hgeometry
  have hliteral : Yields (Translation.sridLiteral u levels)
      (.word "SRID" none :: .sign .equal :: .number number long :: .sign .semicolon :: t.tokens) Anything (some l) := by
    refine .next_bind fun keyword => .require_bind ?_
    rw [hecql]
    refine .take_bind (fun place => (none, ⟨number, place⟩)) (fun _ _ => rfl) fun place => .require_bind ?_
    refine hgeometry.bind_pure (g := fun _ => some l) fun g' hg' => ?_
    cases hg'
    have hqualified : qualifiedByToken u.kit.resolver g (Grammar.withSign (none, ⟨number, place⟩)) = .ok l := hl place
    rw [hqualified]
    exact .complete hpermits _ _ l
  have hkeyword : (Token.word "SRID" none).keyword? = some .SRID := Keyword.ofText_of_mem (by simp [Keyword.table])
  have hcalled : ∀ r, Anything r → ((Token.word "SRID" none :: .sign .equal :: .number number long ::
      .sign .semicolon :: t.tokens ++ r).tail.head? == some (.sign .leftParen)) = false := fun _ _ => rfl
  refine .peek_bind ?_
  dsimp only
  rw [hkeyword]
  refine .parenFollows_bind hcalled ?_
  refine .look_bind (some (.sign .equal)) (fun input r htokens _ => ?_) (hliteral.map _)
  obtain ⟨place, rest, rfl, hrest⟩ := tokensOf_eq_cons htokens
  obtain ⟨place', rest, rfl, _⟩ := tokensOf_eq_cons hrest
  rfl

end GeoFilter
