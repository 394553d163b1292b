import GeoFilter.Proofs.Realization.Number
import GeoFilter.Proofs.Translation.Geometry

/-!
# Geometry text realized

Every part of a geometry text leaves one entry with the tag of its role, provided that no member of a run of
its own kind waits on top of the stack.  Members of a collection rest on the mark at its start.
-/

namespace GeoFilter

open Assembly (run step steps baseStep)
open Phrase (Quiet)
open ResultsStack (TopFree Settled IsMember)

variable {u : Setting} {s : ResultsStack}

/-! ### Entries -/

def HoldsCoordinate (p : Coordinate) (e : Entry) : Prop :=
  e.production = .coordinate ∧ e.node = .coordinate p

def HoldsGeometry (role : GeometryRole) (g : Geometry) (e : Entry) : Prop :=
  e.production.role? = some role ∧ e.node = .geometry g

def HoldsLine (role : GeometryRole) (line : LineString) (e : Entry) : Prop :=
  e.production = .lineStringText role ∧ e.node = .geometry (.lineString line)

def HoldsPolygon (role : GeometryRole) (region : Polygon) (e : Entry) : Prop :=
  e.production = .polygonText role ∧ e.node = .geometry (.polygon region)

def HoldsLiteral (g : GeometryLiteral) (e : Entry) : Prop :=
  e.node = .literal (.geometry g) ∧ e.production.isOperand = true

theorem HoldsLine.geometry {role : GeometryRole} {line : LineString} {e : Entry}
    (h : HoldsLine role line e) : HoldsGeometry role (.lineString line) e :=
  ⟨by rw [h.1]; rfl, h.2⟩

theorem HoldsPolygon.geometry {role : GeometryRole} {region : Polygon} {e : Entry}
    (h : HoldsPolygon role region e) : HoldsGeometry role (.polygon region) e :=
  ⟨by rw [h.1]; rfl, h.2⟩

/-! ### Steps -/

/-- The parts of a ring, of which none may wait beneath the parts of another one. -/
def isRingPart (p : Production) : Bool :=
  p == .coordinate || p == .lineStringText .ring

theorem ResultsStack.TopFree.coordinate (h : s.TopFree isRingPart) : s.TopFree (· == .coordinate) :=
  h.mono fun p hp => by simp only [isRingPart, hp, Bool.true_or]

theorem ResultsStack.TopFree.ring (h : s.TopFree isRingPart) : s.TopFree (· == .lineStringText .ring) :=
  h.mono fun p hp => by simp only [isRingPart, hp, Bool.or_true]

theorem ResultsStack.Settled.ringPart (h : s.Settled) : s.TopFree isRingPart :=
  h.mono fun p hp => by
    rcases Bool.or_eq_true_iff.mp hp with hp | hp <;> rw [beq_iff_eq.mp hp] <;> rfl

theorem ResultsStack.Settled.role (h : s.Settled) {role : GeometryRole}
    (hrole : role ∈ [.multiPointMember, .multiLineStringMember, .multiPolygonMember]) :
    s.TopFree fun p => p.role? == some role :=
  h.mono fun p hp => by
    have hp : p.role? = some role := beq_iff_eq.mp hp
    have hmember : [some .multiPointMember, some .multiLineStringMember,
        some .multiPolygonMember].contains p.role? = true := by
      rw [hp, List.contains_iff_mem]
      simpa using hrole
    unfold Production.isLoose
    split
    case h_4 => exact hmember
    all_goals rfl

theorem run_coordinate {x y : Number} {ex ey : Entry} (hx : ex.node = .number x)
    (hy : ey.node = .number y) (token : SourceToken) :
    run (step u.dialect u.kit ⟨.coordinate, [token]⟩) (ey :: ex :: s) =
      .ok ((), ⟨.coordinate, .coordinate ⟨x.toFloat, y.toFloat⟩, token⟩ :: s) := by
  rw [Assembly.run_step_shared rfl]
  have hpopx : ex.node.number? = some x := by rw [hx]; rfl
  have hpopy : ey.node.number? = some y := by rw [hy]; rfl
  simp only [baseStep, Assembly.coordinate, Assembly.run_bind, Assembly.run_popFloat hpopy,
    Assembly.run_popFloat hpopx, Assembly.run_push]

theorem run_orDegenerate (token : SourceToken) (r : Except GeometryError α) :
    run (Assembly.orDegenerate token r) s =
      match orDegenerate token r with
      | .ok a => .ok (a, s)
      | .error finding => .error (.finding finding) := by
  cases r <;> rfl

theorem run_lineStringText {role : GeometryRole} {points : List Coordinate} {es : List Entry}
    (hes : List.Forall₂ HoldsCoordinate points es) (hs : s.TopFree (· == .coordinate))
    (token : SourceToken) :
    run (step u.dialect u.kit ⟨.lineStringText role, [token]⟩) (es.reverse ++ s) =
      pushed (orDegenerate token (LineString.ofPoints points)) fun line =>
        ⟨.lineStringText role, .geometry (.lineString line), token⟩ :: s := by
  have hrun : List.Forall₂ (IsMember (· == .coordinate) Node.coordinate?) points es :=
    hes.imp fun p e h => ⟨by rw [h.1]; rfl, by rw [h.2]; rfl⟩
  rw [Assembly.run_step_shared rfl]
  simp only [baseStep, Assembly.lineStringText, Assembly.pushGeometry, Assembly.lineString,
    Assembly.run_bind, Assembly.run_drainRun hrun hs, run_orDegenerate]
  cases orDegenerate token (LineString.ofPoints points) <;> rfl

theorem run_polygonText {role : GeometryRole} {shell : LineString} {holes : List LineString}
    {es : List Entry} (hes : List.Forall₂ (HoldsLine .ring) (shell :: holes) es)
    (hs : s.TopFree (· == .lineStringText .ring)) (token : SourceToken) :
    run (step u.dialect u.kit ⟨.polygonText role, [token]⟩) (es.reverse ++ s) =
      pushed (orDegenerate token (Polygon.ofRings shell holes)) fun region =>
        ⟨.polygonText role, .geometry (.polygon region), token⟩ :: s := by
  have hrun : List.Forall₂ (IsMember (· == .lineStringText .ring) Assembly.line?) (shell :: holes) es :=
    hes.imp fun line e h => ⟨by rw [h.1]; rfl, by rw [h.2]; rfl⟩
  rw [Assembly.run_step_shared rfl]
  simp only [baseStep, Assembly.polygonText, Assembly.pushGeometry, Assembly.polygon,
    Assembly.run_bind, Assembly.run_drainRun hrun hs, run_orDegenerate]
  cases orDegenerate token (Polygon.ofRings shell holes) <;> rfl

theorem run_pointText {role : GeometryRole} {p : Coordinate} {e : Entry} (he : HoldsCoordinate p e)
    (token : SourceToken) :
    run (step u.dialect u.kit ⟨.pointText role, [token]⟩) (e :: s) =
      .ok ((), ⟨.pointText role, .geometry (.point p), token⟩ :: s) := by
  have hpop : run (Assembly.ofStack ResultsStack.popCoordinate) (e :: s) = .ok (p, s) :=
    Assembly.run_popAs (by rw [he.2]; rfl)
  rw [Assembly.run_step_shared rfl]
  simp only [baseStep, Assembly.pointText, Assembly.pushGeometry, Assembly.run_bind, hpop,
    Assembly.run_pure, Assembly.run_push]

theorem run_members {role : GeometryRole} {extract : Node → Option α} {wrap : α → Geometry}
    {values : List α} {es : List Entry}
    (hes : List.Forall₂ (fun a => HoldsGeometry role (wrap a)) values es)
    (hextract : ∀ a, extract (.geometry (wrap a)) = some a)
    (hs : s.TopFree fun p => p.role? == some role) :
    run (Assembly.members role extract) (es.reverse ++ s) = .ok (values, s) :=
  Assembly.run_drainRun (hes.imp fun a e h => ⟨by simp [h.1], by rw [h.2, hextract]⟩) hs

theorem run_multiPointText {role : GeometryRole} {p : Coordinate} {ps : List Coordinate}
    {es : List Entry} (hes : List.Forall₂ (fun p => HoldsGeometry .multiPointMember (.point p)) (p :: ps) es)
    (hs : s.Settled) (token : SourceToken) :
    run (step u.dialect u.kit ⟨.multiPointText role, [token]⟩) (es.reverse ++ s) =
      .ok ((), ⟨.multiPointText role, .geometry (.multiPoint (p :: ps)), token⟩ :: s) := by
  have hmembers : run (Assembly.members .multiPointMember Assembly.point?) (es.reverse ++ s) =
      .ok (p :: ps, s) := run_members hes (fun _ => rfl) (hs.role (by simp))
  rw [Assembly.run_step_shared rfl]
  simp only [baseStep, Assembly.multiPointText, Assembly.pushGeometry, Assembly.run_bind, hmembers,
    Assembly.run_nonEmpty (List.cons_ne_nil _ _), Assembly.run_pure, Assembly.run_push]

theorem run_multiLineStringText {role : GeometryRole} {l : LineString} {ls : List LineString}
    {es : List Entry}
    (hes : List.Forall₂ (fun l => HoldsGeometry .multiLineStringMember (.lineString l)) (l :: ls) es)
    (hs : s.Settled) (token : SourceToken) :
    run (step u.dialect u.kit ⟨.multiLineStringText role, [token]⟩) (es.reverse ++ s) =
      .ok ((), ⟨.multiLineStringText role, .geometry (.multiLineString (l :: ls)), token⟩ :: s) := by
  have hmembers : run (Assembly.members .multiLineStringMember Assembly.line?) (es.reverse ++ s) =
      .ok (l :: ls, s) := run_members hes (fun _ => rfl) (hs.role (by simp))
  rw [Assembly.run_step_shared rfl]
  simp only [baseStep, Assembly.multiLineStringText, Assembly.pushGeometry, Assembly.run_bind, hmembers,
    Assembly.run_nonEmpty (List.cons_ne_nil _ _), Assembly.run_pure, Assembly.run_push]

theorem run_multiPolygonText {role : GeometryRole} {r : Polygon} {rs : List Polygon} {es : List Entry}
    (hes : List.Forall₂ (fun r => HoldsGeometry .multiPolygonMember (.polygon r)) (r :: rs) es)
    (hs : s.Settled) (token : SourceToken) :
    run (step u.dialect u.kit ⟨.multiPolygonText role, [token]⟩) (es.reverse ++ s) =
      .ok ((), ⟨.multiPolygonText role, .geometry (.multiPolygon (r :: rs)), token⟩ :: s) := by
  have hmembers : run (Assembly.members .multiPolygonMember Assembly.region?) (es.reverse ++ s) =
      .ok (r :: rs, s) := run_members hes (fun _ => rfl) (hs.role (by simp))
  rw [Assembly.run_step_shared rfl]
  simp only [baseStep, Assembly.multiPolygonText, Assembly.pushGeometry, Assembly.run_bind, hmembers,
    Assembly.run_nonEmpty (List.cons_ne_nil _ _), Assembly.run_pure, Assembly.run_push]

def collectionMark (token : SourceToken) : Entry :=
  ⟨.collectionStart, .raw token.text, token⟩

theorem run_collectionText {role : GeometryRole} {parts : List Geometry} {es : List Entry}
    (hes : List.Forall₂ (HoldsGeometry .collectionMember) parts es) (token : SourceToken) :
    run (step u.dialect u.kit ⟨.collectionText role, [token]⟩)
        (es.reverse ++ collectionMark token :: s) =
      .ok ((), ⟨.collectionText role, .geometry (.collection parts), token⟩ :: s) := by
  -- The mark has no role, so the members end at it.
  have hmembers : run (Assembly.members .collectionMember Node.geometry?)
      (es.reverse ++ collectionMark token :: s) = .ok (parts, collectionMark token :: s) :=
    run_members hes (fun _ => rfl) (ResultsStack.topFree_cons.mpr rfl)
  have hmark : run (Assembly.popRaw .collectionStart) (collectionMark token :: s) =
      .ok (token.text, s) := Assembly.run_popRaw _ _ _
  rw [Assembly.run_step_shared rfl]
  simp only [baseStep, Assembly.collectionText, Assembly.pushGeometry, Assembly.run_bind, hmembers,
    hmark, Assembly.run_pure, Assembly.run_push]

theorem run_geometryLiteral {g : Geometry} {e : Entry} (he : HoldsGeometry .root g e)
    (token : SourceToken) :
    run (step u.dialect u.kit ⟨.geometryLiteral, [token]⟩) (e :: s) =
      .ok ((), ⟨.geometryLiteral, .literal (.geometry ⟨g, none⟩), token⟩ :: s) := by
  have hpop : run (Assembly.ofStack ResultsStack.popGeometry) (e :: s) = .ok (g, s) :=
    Assembly.run_popAs (by rw [he.2]; rfl)
  rw [Assembly.run_step_shared rfl]
  simp only [baseStep, Assembly.geometryLiteral, Assembly.run_bind, hpop, Assembly.run_pushLiteral]

theorem run_popGeometryLiteral {g : GeometryLiteral} {e : Entry} (he : HoldsLiteral g e) :
    run Assembly.popGeometryLiteral (e :: s) = .ok (g, s) := by
  have hpop : run (Assembly.popHolding "geometry literal" Node.geometryLiteral?) (e :: s) =
      .ok ((g, e), s) :=
    Assembly.run_popHolding (by rw [he.1]; rfl)
  simp only [Assembly.popGeometryLiteral, Assembly.run_bind, hpop, Assembly.run_pure]

theorem run_attachCrs (resolver : CrsResolver) (g : Geometry) (srid : Int32) (token : SourceToken) :
    run (Assembly.attachCrs resolver ⟨g, none⟩ srid token) s =
      match qualified resolver g srid token with
      | .ok literal => .ok (literal, s)
      | .error finding => .error (.finding finding) := by
  unfold Assembly.attachCrs qualified
  cases resolver srid <;> rfl

theorem run_attachCode (resolver : CrsResolver) (g : Geometry) (code : Option SourceToken) :
    run (Assembly.attachCode resolver ⟨g, none⟩ code) s =
      match qualifiedByCode resolver g code with
      | .ok literal => .ok (literal, s)
      | .error finding => .error (.finding finding) := by
  cases code with
  | none => rfl
  | some code =>
    simp only [Assembly.attachCode, qualifiedByCode, Assembly.run_bind, Assembly.run_orFind]
    cases Crs.parseCode? code.text with
    | none => rfl
    | some srid => exact run_attachCrs resolver g srid code

theorem run_sridOf (n : Number) (srid : SourceToken) :
    run (Assembly.sridOf ⟨.srid, .number n, srid⟩) s =
      match n with
      | .integer k => .ok (k, s)
      | _ => .error (.finding (.invalidSrid srid)) := by
  cases n <;> rfl

theorem run_sridGeometryLiteral (hu : u.dialect = .cql) {g : Geometry} {e : Entry} {n : Number}
    {srid : SourceToken} (he : HoldsLiteral ⟨g, none⟩ e) (token : SourceToken) :
    run (step u.dialect u.kit ⟨.sridGeometryLiteral, [token]⟩) (e :: ⟨.srid, .number n, srid⟩ :: s) =
      pushed (qualifiedByNumber u.kit.resolver g n srid) fun literal =>
        ⟨.sridGeometryLiteral, .literal (.geometry literal), token⟩ :: s := by
  rw [hu]
  change run (Assembly.sridGeometryLiteral u.kit.resolver token) _ = _
  simp only [Assembly.sridGeometryLiteral, Assembly.run_bind, run_popGeometryLiteral he,
    Assembly.run_pop, run_sridOf, qualifiedByNumber]
  cases n with
  | integer k =>
    simp only [run_attachCrs]
    cases qualified u.kit.resolver g k srid <;> rfl
  | _ => rfl

theorem run_geometryLiteralWithSrid (hu : u.dialect = .ecql) {g : Geometry} {e : Entry}
    (he : HoldsLiteral ⟨g, none⟩ e) (token srid : SourceToken) :
    run (step u.dialect u.kit ⟨.geometryLiteralWithSrid, [token, srid]⟩) (e :: s) =
      pushed (qualifiedByToken u.kit.resolver g srid) fun literal =>
        ⟨.geometryLiteralWithSrid, .literal (.geometry literal), token⟩ :: s := by
  rw [hu]
  change run (Assembly.geometryLiteralWithSrid u.kit.resolver token [srid]) _ = _
  unfold qualifiedByToken
  simp only [Assembly.geometryLiteralWithSrid, Assembly.run_bind, Assembly.run_orFind]
  cases Decimal.readInt32? (Text.trimmed srid.text) with
  | none => rfl
  | some n =>
    simp only [run_popGeometryLiteral he, run_attachCrs]
    cases qualified u.kit.resolver g n srid <;> rfl

theorem run_boundOf (token : SourceToken) :
    run (Assembly.boundOf token) s =
      match boundOf token with
      | .ok x => .ok (x, s)
      | .error finding => .error (.finding finding) := by
  unfold Assembly.boundOf boundOf orFinding
  rw [Assembly.run_orFind]
  cases Decimal.readFloat? token.text <;> rfl

theorem run_rectangleOf (token west east north south : SourceToken) (code : List SourceToken) :
    run (Assembly.envelope u.kit.resolver token ([west, east, north, south] ++ code)) s =
      pushed (rectangleOf u.kit.resolver west east north south code.head?) fun literal =>
        ⟨.envelope, .literal (.geometry literal), token⟩ :: s := by
  change run (Assembly.envelope u.kit.resolver token (west :: east :: north :: south :: code)) s = _
  simp only [Assembly.envelope, Assembly.run_bind, run_boundOf, run_attachCode, rectangleOf, rectangle]
  cases boundOf west with
  | error finding => rfl
  | ok minX => cases boundOf east with
    | error finding => rfl
    | ok maxX => cases boundOf north with
      | error finding => rfl
      | ok maxY => cases boundOf south with
        | error finding => rfl
        | ok minY =>
          simp only [bind, Except.bind]
          cases qualifiedByCode u.kit.resolver _ code.head? <;> rfl

/-! ### Phrases -/

theorem realizes_coordinate :
    Realizes u Grammar.coordinate s (Translation.coordinate u) (Pushes HoldsCoordinate s) := by
  refine (realizes_signedNumber pushesNumber_ordinate).bind fun _ x s' hx => ?_
  obtain ⟨rfl, rfl⟩ := hx
  refine (realizes_signedNumber pushesNumber_ordinate).bind fun _ y s' hy => ?_
  obtain ⟨-, rfl⟩ := hy
  exact .reduce_ok (run_coordinate rfl rfl _) ⟨_, ⟨rfl, rfl⟩, rfl⟩

theorem realizes_coordinates :
    Realizes u (Phrase.parenthesized (Phrase.commaSeparated Grammar.coordinate)) s
      (Translation.parenthesized (Translation.commaSeparated (Translation.coordinate u)))
      (PushesRun HoldsCoordinate s) :=
  .parenthesized (.commaSeparated_always fun _ => realizes_coordinate)

theorem realizes_lineBody (hs : s.TopFree (· == .coordinate)) (role : GeometryRole)
    (token : SourceToken) :
    Realizes u (Grammar.lineBody role token) s (Translation.lineBody u role token)
      (Pushes (HoldsLine role) s) := by
  refine realizes_coordinates.bind fun _ ps s' hps => ?_
  obtain ⟨es, hes, rfl⟩ := hps
  exact .reduce (run_lineStringText hes hs token) fun line _ => ⟨_, ⟨rfl, rfl⟩, rfl⟩

theorem realizes_ring (hs : s.TopFree (· == .coordinate)) :
    Realizes u Grammar.ring s (Translation.ring u) (Pushes (HoldsLine .ring) s) :=
  .read_bind (.here _) fun token => realizes_lineBody hs .ring token

theorem realizes_polygonBody (hs : s.TopFree isRingPart) (role : GeometryRole) (token : SourceToken) :
    Realizes u (Grammar.polygonBody role token) s (Translation.polygonBody u role token)
      (Pushes (HoldsPolygon role) s) := by
  -- A ring that was read before waits beneath the coordinates of the next one.
  have hready : ∀ (s : ResultsStack) (line : LineString) (e : Entry), s.TopFree (· == .coordinate) →
      HoldsLine .ring line e → TopFree (· == .coordinate) (e :: s) := by
    intro s line e _ he
    rw [ResultsStack.topFree_cons, he.1]
    rfl
  refine (Realizes.parenthesized (.commaSeparated (fun _ => realizes_ring) hready hs.coordinate)).bind
    fun _ rings s' hrings => ?_
  obtain ⟨es, hes, rfl⟩ := hrings
  exact .reduce (run_polygonText hes hs.ring token) fun region _ => ⟨_, ⟨rfl, rfl⟩, rfl⟩

theorem realizes_pointText (role : GeometryRole) (token : SourceToken) {p : Coordinate} {e : Entry}
    (he : HoldsCoordinate p e) :
    Realizes u (Phrase.reduce (.pointText role) [token]) (e :: s)
      (Translation.complete u (.pointText role) [token] (.ok p))
      (Pushes (fun p => HoldsGeometry role (.point p)) s) :=
  .reduce_ok (run_pointText he token) ⟨_, ⟨rfl, rfl⟩, rfl⟩

theorem realizes_memberPoint :
    Realizes u Grammar.memberPoint s (Translation.memberPoint u)
      (Pushes (fun p => HoldsGeometry .multiPointMember (.point p)) s) := by
  refine .read_bind (.here _) fun token => .read_bind (.accept _) fun paren? => ?_
  cases paren? with
  | none =>
    refine realizes_coordinate.bind fun _ p s' hp => ?_
    obtain ⟨e, he, rfl⟩ := hp
    exact realizes_pointText .multiPointMember token he
  | some _ =>
    refine realizes_coordinate.bind fun _ p s' hp => ?_
    obtain ⟨e, he, rfl⟩ := hp
    exact .read_bind (.require _) fun _ => realizes_pointText .multiPointMember token he

theorem realizes_memberLine (hs : s.TopFree (· == .coordinate)) :
    Realizes u Grammar.memberLine s (Translation.memberLine u)
      (Pushes (fun l => HoldsGeometry .multiLineStringMember (.lineString l)) s) :=
  .read_bind (.here _) fun token =>
    (realizes_lineBody hs .multiLineStringMember token).mono fun _ _ _ ⟨e, he, hs'⟩ =>
      ⟨e, he.geometry, hs'⟩

theorem realizes_memberPolygon (hs : s.TopFree isRingPart) :
    Realizes u Grammar.memberPolygon s (Translation.memberPolygon u)
      (Pushes (fun r => HoldsGeometry .multiPolygonMember (.polygon r)) s) :=
  .read_bind (.here _) fun token =>
    (realizes_polygonBody hs .multiPolygonMember token).mono fun _ _ _ ⟨e, he, hs'⟩ =>
      ⟨e, he.geometry, hs'⟩

/-- A geometry with a role of its own never ends a run of coordinates or of rings. -/
theorem HoldsGeometry.topFree {role : GeometryRole} {g : Geometry} {e : Entry}
    (h : HoldsGeometry role g e) (hrole : role ≠ .ring) : TopFree isRingPart (e :: s) := by
  rw [ResultsStack.topFree_cons]
  have hcoordinate : e.production ≠ .coordinate := by
    intro hp
    have hnone := h.1
    rw [hp] at hnone
    cases hnone
  have hring : e.production ≠ .lineStringText .ring := by
    intro hp
    have hsome := h.1
    rw [hp] at hsome
    exact hrole (Option.some.inj hsome).symm
  simp only [isRingPart, Bool.or_eq_false_iff, beq_eq_false_iff_ne]
  exact ⟨hcoordinate, hring⟩

theorem HoldsGeometry.settled {g : Geometry} {e : Entry} (h : HoldsGeometry .collectionMember g e) :
    Settled (e :: s) := by
  have hrole := h.1
  rw [ResultsStack.settled_cons]
  unfold Production.isLoose
  split
  case h_3 hp =>
    rw [hp] at hrole
    cases hrole
  case h_4 =>
    rw [hrole]
    rfl
  all_goals
    rename_i hp
    rw [hp] at hrole
    cases hrole

theorem settled_collectionMark (token : SourceToken) : Settled (collectionMark token :: s) :=
  ResultsStack.settled_cons.mpr rfl

/-- Whatever follows the keyword of a geometry text leaves the geometry with the role asked for. -/
theorem realizes_shapeBody {member? : Option (Phrase Unit)} {direct? : Option (Translation Geometry)}
    (hmember : RealizesInner u (HoldsGeometry .collectionMember) member? direct?) (hs : s.Settled)
    (role : GeometryRole) (token : SourceToken) (shape : Shape) :
    Realizes u (Grammar.shapeBody member? role token shape) s
      (Translation.shapeBody u direct? role token shape) (Pushes (HoldsGeometry role) s) := by
  cases shape with
  | point =>
    refine (Realizes.parenthesized realizes_coordinate).bind fun _ p s' hp => ?_
    obtain ⟨e, he, rfl⟩ := hp
    exact .reduce_ok (run_pointText he token) ⟨_, ⟨rfl, rfl⟩, rfl⟩
  | lineString =>
    refine .map_right ((realizes_lineBody hs.ringPart.coordinate role token).mono fun _ line s' h => ?_)
    obtain ⟨e, he, rfl⟩ := h
    exact ⟨e, he.geometry, rfl⟩
  | polygon =>
    refine .map_right ((realizes_polygonBody hs.ringPart role token).mono fun _ region s' h => ?_)
    obtain ⟨e, he, rfl⟩ := h
    exact ⟨e, he.geometry, rfl⟩
  | multiPoint =>
    refine (Realizes.parenthesized (.commaSeparated_always fun _ =>
      realizes_memberPoint)).bind fun _ ps s' hps => ?_
    obtain ⟨es, hes, rfl⟩ := hps
    exact .reduce_ok (run_multiPointText hes hs token) ⟨_, ⟨rfl, rfl⟩, rfl⟩
  | multiLineString =>
    refine (Realizes.parenthesized (.commaSeparated (fun _ => realizes_memberLine)
      (fun _ _ _ _ he => (he.topFree (by decide)).coordinate) hs.ringPart.coordinate)).bind
      fun _ ls s' hls => ?_
    obtain ⟨es, hes, rfl⟩ := hls
    exact .reduce_ok (run_multiLineStringText hes hs token) ⟨_, ⟨rfl, rfl⟩, rfl⟩
  | multiPolygon =>
    refine (Realizes.parenthesized (.commaSeparated (fun _ => realizes_memberPolygon)
      (fun _ _ _ _ he => he.topFree (by decide)) hs.ringPart)).bind fun _ rs s' hrs => ?_
    obtain ⟨es, hes, rfl⟩ := hrs
    exact .reduce_ok (run_multiPolygonText hes hs token) ⟨_, ⟨rfl, rfl⟩, rfl⟩
  | collection =>
    -- The members stand on the mark, whatever waits beneath it.
    have hstart : run (step u.dialect u.kit ⟨.collectionStart, [token]⟩) s =
        .ok ((), collectionMark token :: s) := by
      rw [Assembly.run_step_shared rfl]
      rfl
    refine (Realizes.reduce_ok hstart
      (R := fun _ _ s' => s' = collectionMark token :: s) rfl).bind fun _ _ s' hs' => ?_
    subst hs'
    refine (Realizes.parenthesized (.commaSeparated (fun _ hready => .nested hmember hready token)
      (fun _ _ _ _ he => he.settled) (settled_collectionMark token))).bind fun _ gs s' hgs => ?_
    obtain ⟨es, hes, rfl⟩ := hgs
    exact .reduce_ok (run_collectionText hes token) ⟨_, ⟨rfl, rfl⟩, rfl⟩

theorem realizes_shapeText {member? : Option (Phrase Unit)} {direct? : Option (Translation Geometry)}
    (hmember : RealizesInner u (HoldsGeometry .collectionMember) member? direct?) (hs : s.Settled)
    (role : GeometryRole) :
    Realizes u (Grammar.shapeText member? role) s (Translation.shapeText u direct? role)
      (Pushes (HoldsGeometry role) s) := by
  refine .read_bind .peek fun token? => ?_
  cases token?.bind Token.keyword? with
  | none => exact .unexpected _
  | some keyword =>
    cases keyword with
    | shape shape =>
      exact .read_bind (.next _) fun token => realizes_shapeBody hmember hs role token shape
    | _ => exact .unexpected _

theorem realizes_geometryText (levels : Nat) (hs : s.Settled) (role : GeometryRole) :
    Realizes u (Grammar.geometryText levels role) s (Translation.geometryText u levels role)
      (Pushes (HoldsGeometry role) s) := by
  induction levels generalizing s role with
  | zero => exact realizes_shapeText .none hs role
  | succ levels ih => exact realizes_shapeText (.some fun _ hs => ih hs .collectionMember) hs role

theorem realizes_geometryLiteral (levels : Nat) (hs : s.Settled) :
    Realizes u (Grammar.geometryLiteral levels) s (Translation.geometryLiteral u levels)
      (Pushes (fun g => HoldsLiteral ⟨g, none⟩) s) := by
  refine .read_bind (.here _) fun keyword => ?_
  refine (realizes_geometryText levels hs .root).bind fun _ g s' hg => ?_
  obtain ⟨e, he, rfl⟩ := hg
  exact .reduce_ok (run_geometryLiteral he keyword) ⟨_, ⟨rfl, rfl⟩, rfl⟩

theorem realizes_sridLiteral (levels : Nat) (hs : s.Settled) :
    Realizes u (Grammar.sridLiteral u.dialect levels) s (Translation.sridLiteral u levels)
      (Pushes HoldsLiteral s) := by
  refine .read_bind (.next _) fun keyword => .read_bind (.require _) fun _ => ?_
  cases hu : u.dialect with
  | cql =>
    refine (realizes_signedNumber (pushesNumber_srid hu)).bind fun _ v s' hv => ?_
    obtain ⟨-, rfl⟩ := hv
    refine .read_bind (.require _) fun _ => ?_
    refine (realizes_geometryLiteral levels (ResultsStack.settled_cons.mpr rfl)).bind fun _ g s' hg => ?_
    obtain ⟨e, he, rfl⟩ := hg
    exact .reduce (run_sridGeometryLiteral hu he keyword) fun _ _ => ⟨_, ⟨rfl, rfl⟩, rfl⟩
  | ecql =>
    refine .read_bind quiet_signed fun srid => .read_bind (.require _) fun _ => ?_
    refine (realizes_geometryLiteral levels hs).bind fun _ g s' hg => ?_
    obtain ⟨e, he, rfl⟩ := hg
    exact .reduce (run_geometryLiteralWithSrid hu he keyword _) fun _ _ => ⟨_, ⟨rfl, rfl⟩, rfl⟩

theorem quiet_referenceSystem : Grammar.referenceSystem?.Quiet :=
  .bind (.accept _) fun
    | some _ => .bind (.expectIf _ _) fun _ => .pure _
    | none => .pure _

/-- The entries that the bounds of an ENVELOPE leave: none in the extended dialect. -/
def boundEntries (u : Setting) (es : List Entry) (n : Nat) : Prop :=
  match u.dialect with
  | .cql => es.length = n ∧ ∀ e ∈ es, e.production = .envelopeComponent
  | .ecql => es = []

theorem realizes_envelopeBound {n : Nat} {es : List Entry} (hes : boundEntries u es n) :
    Realizes u (Grammar.envelopeBound u.dialect) (es ++ s) (Translation.envelopeBound u)
      fun token token' s' => token' = token ∧ ∃ es, boundEntries u es (n + 1) ∧ s' = es ++ s := by
  unfold Grammar.envelopeBound Translation.envelopeBound
  unfold boundEntries at hes ⊢
  cases hu : u.dialect with
  | cql =>
    rw [hu] at hes
    obtain ⟨hlength, hall⟩ := hes
    refine .map_right ((realizes_signedNumber (pushesNumber_envelopeComponent hu)).mono
      fun token v s' hv => ⟨hv.1.symm, _ :: es, ⟨congrArg (· + 1) hlength, ?_⟩, hv.2⟩)
    exact List.forall_mem_cons.mpr ⟨rfl, hall⟩
  | ecql =>
    rw [hu] at hes
    subst hes
    exact .read_bind quiet_signed fun n => .pure ⟨rfl, [], rfl, rfl⟩

theorem run_discard {es : List Entry} (hes : ∀ e ∈ es, e.production = .envelopeComponent) :
    run (Assembly.ofStack (ResultsStack.discard .envelopeComponent es.length)) (es ++ s) =
      .ok ((), s) := by
  have hdiscard : ResultsStack.discard .envelopeComponent es.length (es ++ s) = (.ok (), s) := by
    induction es with
    | nil => rfl
    | cons e es ih =>
      rw [List.forall_mem_cons] at hes
      rw [List.cons_append, List.length_cons, ResultsStack.discard, if_pos hes.1]
      exact ih hes.2
  simp only [Assembly.run, Assembly.ofStack, hdiscard]

theorem run_envelope {es : List Entry} (hes : boundEntries u es 4)
    (token west east north south : SourceToken) (code : List SourceToken) :
    run (step u.dialect u.kit ⟨.envelope, [token, west, east, north, south] ++ code⟩) (es ++ s) =
      pushed (rectangleOf u.kit.resolver west east north south code.head?) fun literal =>
        ⟨.envelope, .literal (.geometry literal), token⟩ :: s := by
  unfold boundEntries at hes
  cases hu : u.dialect with
  | cql =>
    rw [hu] at hes
    have hdiscard := run_discard (s := s) hes.2
    rw [hes.1] at hdiscard
    change run (Assembly.ofStack (ResultsStack.discard .envelopeComponent 4) >>= fun _ =>
      Assembly.envelope u.kit.resolver token ([west, east, north, south] ++ code)) _ = _
    rw [Assembly.run_bind, hdiscard]
    exact run_rectangleOf token west east north south code
  | ecql =>
    rw [hu] at hes
    subst hes
    exact run_rectangleOf token west east north south code

theorem realizes_envelope :
    Realizes u (Grammar.envelope u.dialect) s (Translation.envelope u) (Pushes HoldsLiteral s) := by
  have hnone : boundEntries u [] 0 := by
    unfold boundEntries
    split
    · exact ⟨rfl, List.forall_mem_nil _⟩
    · rfl
  refine .read_bind (.next _) fun keyword => .read_bind (.require _) fun _ => ?_
  refine (realizes_envelopeBound (s := s) hnone).bind fun west _ s' h => ?_
  obtain ⟨rfl, es, hes, rfl⟩ := h
  refine .read_bind (.require _) fun _ => (realizes_envelopeBound hes).bind fun east _ s' h => ?_
  obtain ⟨rfl, es, hes, rfl⟩ := h
  refine .read_bind (.require _) fun _ => (realizes_envelopeBound hes).bind fun north _ s' h => ?_
  obtain ⟨rfl, es, hes, rfl⟩ := h
  refine .read_bind (.require _) fun _ => (realizes_envelopeBound hes).bind fun south _ s' h => ?_
  obtain ⟨rfl, es, hes, rfl⟩ := h
  refine .read_bind quiet_referenceSystem fun code => .read_bind (.require _) fun _ => ?_
  exact .reduce (run_envelope hes keyword _ _ _ _ code) fun _ _ => ⟨_, ⟨rfl, rfl⟩, rfl⟩

end GeoFilter
