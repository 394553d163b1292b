import GeoFilter.Geometry
import GeoFilter.Proofs.Rounding.Extended
import Mathlib.Order.Bounds.Basic

/-!
# The envelope of a geometry

A geometry is made of points, lines and shells of polygons, at any depth of its collections.  Its envelope is the
smallest rectangle around their points: each side is attained by one of the points, whatever their order and however
they are nested.  There is no envelope only when there is nothing to be around.
-/

namespace GeoFilter

def Coordinate.IsNumber (p : Coordinate) : Prop :=
  Floating.IsNumber p.x ∧ Floating.IsNumber p.y

/-! ### What a geometry is made of -/

/-- A point, a line or the shell of a polygon. -/
inductive Figure where
  | point (p : Coordinate)
  | line (path : LineString)

def Figure.points : Figure → List Coordinate
  | .point p => [p]
  | .line path => path.points

theorem Figure.points_ne_nil (f : Figure) : f.points ≠ [] := by
  cases f with
  | point p => nofun
  | line path =>
    intro h
    have henough := path.enough
    rw [show path.points = [] from h] at henough
    exact absurd henough (by decide)

namespace Geometry

mutual

/-- The points, lines and shells of a geometry at any depth.  Holes are no part of it. -/
def figures : Geometry → List Figure
  | .point p => [.point p]
  | .lineString path => [.line path]
  | .polygon region => [.line region.shell]
  | .multiPoint points => points.map .point
  | .multiLineString lines => lines.map .line
  | .multiPolygon regions => regions.map fun region => .line region.shell
  | .collection members => figuresOf members

def figuresOf : List Geometry → List Figure
  | [] => []
  | member :: members => figures member ++ figuresOf members

end

def vertices (g : Geometry) : List Coordinate :=
  g.figures.flatMap Figure.points

theorem figuresOf_append (as bs : List Geometry) : figuresOf (as ++ bs) = figuresOf as ++ figuresOf bs := by
  induction as with
  | nil => rfl
  | cons a as ih => rw [List.cons_append, figuresOf, figuresOf, ih, List.append_assoc]

theorem figuresOf_perm {as bs : List Geometry} (h : as.Perm bs) : (figuresOf as).Perm (figuresOf bs) := by
  induction h with
  | nil => exact .nil
  | cons a _ ih =>
    rw [figuresOf, figuresOf]
    exact ih.append_left _
  | swap a b as =>
    simp only [figuresOf, ← List.append_assoc]
    exact List.perm_append_comm.append_right _
  | trans _ _ ih ih' => exact ih.trans ih'

theorem figuresOf_map {α : Type} (f : α → Geometry) (g : α → Figure) (h : ∀ a, (f a).figures = [g a]) (as : List α) :
    figuresOf (as.map f) = as.map g := by
  induction as with
  | nil => rfl
  | cons a as ih => rw [List.map_cons, figuresOf, ih, h, List.map_cons, List.singleton_append]

/-- Geometries that differ in the order and nesting of their members only. -/
inductive Rearranged : List Geometry → List Geometry → Prop
  | perm {as bs : List Geometry} : as.Perm bs → Rearranged as bs
  | points (ps : List Coordinate) : Rearranged [.multiPoint ps] (ps.map .point)
  | lines (paths : List LineString) : Rearranged [.multiLineString paths] (paths.map .lineString)
  | regions (shapes : List Polygon) : Rearranged [.multiPolygon shapes] (shapes.map .polygon)
  | members (gs : List Geometry) : Rearranged [.collection gs] gs
  | append {as bs as' bs' : List Geometry} : Rearranged as bs → Rearranged as' bs' → Rearranged (as ++ as') (bs ++ bs')
  | symm {as bs : List Geometry} : Rearranged as bs → Rearranged bs as
  | trans {as bs cs : List Geometry} : Rearranged as bs → Rearranged bs cs → Rearranged as cs

theorem Rearranged.figures_perm {as bs : List Geometry} (h : Rearranged as bs) :
    (figuresOf as).Perm (figuresOf bs) := by
  induction h with
  | perm h => exact figuresOf_perm h
  | points ps =>
    rw [figuresOf_map Geometry.point Figure.point (fun _ => rfl), figuresOf, figuresOf, List.append_nil]
    exact .refl _
  | lines paths =>
    rw [figuresOf_map Geometry.lineString Figure.line (fun _ => rfl), figuresOf, figuresOf, List.append_nil]
    exact .refl _
  | regions shapes =>
    rw [figuresOf_map Geometry.polygon (fun region => Figure.line region.shell) (fun _ => rfl), figuresOf, figuresOf,
      List.append_nil]
    exact .refl _
  | members gs =>
    rw [figuresOf, figuresOf, List.append_nil]
    exact .refl _
  | append _ _ ih ih' =>
    rw [figuresOf_append, figuresOf_append]
    exact ih.append ih'
  | symm _ ih => exact ih.symm
  | trans _ _ ih ih' => exact ih.trans ih'

theorem Rearranged.mem_vertices {g g' : Geometry} (h : Rearranged [g] [g']) (p : Coordinate) :
    p ∈ g'.vertices ↔ p ∈ g.vertices := by
  have hperm : g.figures.Perm g'.figures := by simpa [figuresOf] using h.figures_perm
  exact (hperm.flatMap_right Figure.points).mem_iff.symm

end Geometry

/-! ### Rectangles around points -/

namespace Envelope

/-- Equality of all sides as numbers: the two zeros are equal. -/
def same (a b : Envelope) : Bool :=
  a.minX == b.minX && a.maxX == b.maxX && a.minY == b.minY && a.maxY == b.maxY

instance : BEq Envelope := ⟨same⟩

/-- Whether a point lies in a rectangle; sides and corners belong to it. -/
def Covers (e : Envelope) (p : Coordinate) : Prop :=
  (e.minX ≤ p.x ∧ p.x ≤ e.maxX) ∧ e.minY ≤ p.y ∧ p.y ≤ e.maxY

def Within (a b : Envelope) : Prop :=
  (b.minX ≤ a.minX ∧ a.maxX ≤ b.maxX) ∧ b.minY ≤ a.minY ∧ a.maxY ≤ b.maxY

/-- Whether the sides of a rectangle are the least and the greatest ordinates of some points. -/
structure Tight (e : Envelope) (ps : Set Coordinate) : Prop where
  minX : IsLeast (Coordinate.x '' ps) e.minX
  maxX : IsGreatest (Coordinate.x '' ps) e.maxX
  minY : IsLeast (Coordinate.y '' ps) e.minY
  maxY : IsGreatest (Coordinate.y '' ps) e.maxY

variable {a b e : Envelope} {ps qs : Set Coordinate}

theorem Tight.covers (h : e.Tight ps) {p : Coordinate} (hp : p ∈ ps) : e.Covers p :=
  have hx : p.x ∈ Coordinate.x '' ps := ⟨p, hp, rfl⟩
  have hy : p.y ∈ Coordinate.y '' ps := ⟨p, hp, rfl⟩
  ⟨⟨h.minX.2 hx, h.maxX.2 hx⟩, h.minY.2 hy, h.maxY.2 hy⟩

theorem Tight.within (h : e.Tight ps) (hcovers : ∀ p ∈ ps, b.Covers p) : e.Within b := by
  obtain ⟨p, hp, hminX⟩ := h.minX.1
  obtain ⟨q, hq, hmaxX⟩ := h.maxX.1
  obtain ⟨r, hr, hminY⟩ := h.minY.1
  obtain ⟨s, hs, hmaxY⟩ := h.maxY.1
  rw [Within, ← hminX, ← hmaxX, ← hminY, ← hmaxY]
  exact ⟨⟨(hcovers p hp).1.1, (hcovers q hq).1.2⟩, (hcovers r hr).2.1, (hcovers s hs).2.2⟩

/-- Two smallest rectangles are equal, if each is around the points of the other. -/
theorem Tight.beq (ha : a.Tight ps) (hb : b.Tight qs) (hps : ∀ p ∈ ps, b.Covers p) (hqs : ∀ q ∈ qs, a.Covers q) :
    (a == b) = true := by
  obtain ⟨⟨hminX, hmaxX⟩, hminY, hmaxY⟩ := ha.within hps
  obtain ⟨⟨hminX', hmaxX'⟩, hminY', hmaxY'⟩ := hb.within hqs
  change (a.minX == b.minX && a.maxX == b.maxX && a.minY == b.minY && a.maxY == b.maxY) = true
  rw [Floating.beq_of_le_of_le hminX' hminX, Floating.beq_of_le_of_le hmaxX hmaxX',
    Floating.beq_of_le_of_le hminY' hminY, Floating.beq_of_le_of_le hmaxY hmaxY']
  rfl

theorem Tight.unique (ha : a.Tight ps) (hb : b.Tight ps) : (a == b) = true :=
  ha.beq hb (fun _ hp => hb.covers hp) fun _ hp => ha.covers hp

theorem least_self (x : Float) : Floating.least x x = x := by
  rcases Floating.least_eq x x with h | h <;> exact h

theorem greatest_self (x : Float) : Floating.greatest x x = x := by
  rcases Floating.greatest_eq x x with h | h <;> exact h

theorem ofPoint_eq (p : Coordinate) : ofPoint p = ⟨p.x, p.x, p.y, p.y⟩ := by
  rw [ofPoint, between, least_self, least_self, greatest_self, greatest_self]

theorem isLeast_singleton {x : Float} (hx : Floating.IsNumber x) : IsLeast {x} x :=
  ⟨rfl, fun _ hy => (Set.mem_singleton_iff.mp hy).symm ▸ Floating.le_refl_of_isNumber hx⟩

theorem isGreatest_singleton {x : Float} (hx : Floating.IsNumber x) : IsGreatest {x} x :=
  ⟨rfl, fun _ hy => (Set.mem_singleton_iff.mp hy).symm ▸ Floating.le_refl_of_isNumber hx⟩

theorem tight_ofPoint {p : Coordinate} (hp : p.IsNumber) : (ofPoint p).Tight {p} := by
  rw [ofPoint_eq]
  constructor <;> rw [Set.image_singleton]
  · exact isLeast_singleton hp.1
  · exact isGreatest_singleton hp.1
  · exact isLeast_singleton hp.2
  · exact isGreatest_singleton hp.2

theorem isLeast_union {s t : Set Float} {x y : Float} (hx : IsLeast s x) (hy : IsLeast t y) :
    IsLeast (s ∪ t) (Floating.least x y) := by
  have hnumber := (Floating.isNumber_of_le (hx.2 hx.1)).1
  have hnumber' := (Floating.isNumber_of_le (hy.2 hy.1)).1
  refine ⟨?_, ?_⟩
  · rcases Floating.least_eq x y with h | h <;> rw [h]
    · exact .inl hx.1
    · exact .inr hy.1
  · rintro z (hz | hz)
    · exact Floating.le_trans_of_isNumber (Floating.least_le_left hnumber hnumber') (hx.2 hz)
    · exact Floating.le_trans_of_isNumber (Floating.least_le_right hnumber hnumber') (hy.2 hz)

theorem isGreatest_union {s t : Set Float} {x y : Float} (hx : IsGreatest s x) (hy : IsGreatest t y) :
    IsGreatest (s ∪ t) (Floating.greatest x y) := by
  have hnumber := (Floating.isNumber_of_le (hx.2 hx.1)).1
  have hnumber' := (Floating.isNumber_of_le (hy.2 hy.1)).1
  refine ⟨?_, ?_⟩
  · rcases Floating.greatest_eq x y with h | h <;> rw [h]
    · exact .inl hx.1
    · exact .inr hy.1
  · rintro z (hz | hz)
    · exact Floating.le_trans_of_isNumber (hx.2 hz) (Floating.le_greatest_left hnumber hnumber')
    · exact Floating.le_trans_of_isNumber (hy.2 hz) (Floating.le_greatest_right hnumber hnumber')

/-- One step of the fold: the smallest rectangle around two rectangles is that around the points of both. -/
theorem Tight.expand (ha : a.Tight ps) (hb : b.Tight qs) : (a.expand b).Tight (ps ∪ qs) := by
  constructor <;> rw [Set.image_union]
  · exact isLeast_union ha.minX hb.minX
  · exact isGreatest_union ha.maxX hb.maxX
  · exact isLeast_union ha.minY hb.minY
  · exact isGreatest_union ha.maxY hb.maxY

/-- Rectangles around the consecutive parts of some points. -/
inductive Parts : List Envelope → List Coordinate → Prop
  | nil : Parts [] []
  | cons {e : Envelope} {es : List Envelope} {ps qs : List Coordinate} :
    e.Tight {p | p ∈ ps} → Parts es qs → Parts (e :: es) (ps ++ qs)

theorem Tight.foldl {es : List Envelope} {qs : List Coordinate} (hes : Parts es qs) :
    ∀ {a : Envelope} {ps : List Coordinate}, a.Tight {p | p ∈ ps} →
      (es.foldl Envelope.expand a).Tight {p | p ∈ ps ++ qs} := by
  induction hes with
  | nil =>
    intro a ps ha
    rwa [List.append_nil]
  | @cons e es qs qs' he _ ih =>
    intro a ps ha
    rw [List.foldl_cons, ← List.append_assoc]
    refine ih ?_
    have hunion : {p | p ∈ ps ++ qs} = {p | p ∈ ps} ∪ {p | p ∈ qs} := Set.ext fun p => List.mem_append
    rw [hunion]
    exact ha.expand he

/-- Whether a rectangle is the smallest one around some points; there is none around no points. -/
def Encloses : Option Envelope → List Coordinate → Prop
  | none, ps => ps = []
  | some e, ps => e.Tight {p | p ∈ ps}

theorem Encloses.exists_tight {e? : Option Envelope} {ps : List Coordinate} (h : Encloses e? ps) (hps : ps ≠ []) :
    ∃ e, e? = some e ∧ e.Tight {p | p ∈ ps} := by
  cases e? with
  | none => exact absurd h hps
  | some e => exact ⟨e, rfl, h⟩

theorem encloses_around {es : List Envelope} {ps : List Coordinate} (h : Parts es ps) : Encloses (around es) ps := by
  cases h with
  | nil => rfl
  | cons he hes => exact he.foldl hes

theorem parts_ofPoint {ps : List Coordinate} (h : ∀ p ∈ ps, p.IsNumber) : Parts (ps.map ofPoint) ps := by
  induction ps with
  | nil => exact .nil
  | cons p ps ih =>
    obtain ⟨hp, hps⟩ := List.forall_mem_cons.mp h
    have htight : (ofPoint p).Tight {q | q ∈ [p]} := by
      rw [show {q | q ∈ [p]} = {p} from Set.ext fun q => List.mem_singleton]
      exact tight_ofPoint hp
    exact .cons htight (ih hps)

theorem encloses_ofPoints {ps : List Coordinate} (h : ∀ p ∈ ps, p.IsNumber) : Encloses (ofPoints ps) ps :=
  encloses_around (parts_ofPoint h)

theorem Encloses.unique {e e' : Option Envelope} {ps qs : List Coordinate} (h : Encloses e ps) (h' : Encloses e' qs)
    (hmem : ∀ p, p ∈ qs ↔ p ∈ ps) : (e == e') = true := by
  have hset : {p | p ∈ qs} = {p | p ∈ ps} := Set.ext hmem
  cases e with
  | none =>
    cases e' with
    | none => rfl
    | some e' =>
      obtain ⟨p, hp, _⟩ := h'.minX.1
      rw [hset, show ps = [] from h] at hp
      cases hp
  | some e =>
    cases e' with
    | none =>
      obtain ⟨p, hp, _⟩ := h.minX.1
      rw [← hset, show qs = [] from h'] at hp
      cases hp
    | some e' => exact Tight.unique h (hset ▸ h')

theorem around_eq_none {es : List Envelope} : around es = none ↔ es = [] := by
  cases es with
  | nil => exact ⟨fun _ => rfl, fun _ => rfl⟩
  | cons e es => exact ⟨nofun, nofun⟩

theorem ofPoints_eq_none {ps : List Coordinate} : ofPoints ps = none ↔ ps = [] := by
  rw [ofPoints, around_eq_none, List.map_eq_nil_iff]

end Envelope

/-! ### The envelope is around all figures -/

namespace Geometry

open Envelope (Encloses Parts)

theorem flatMap_figures_eq_nil {fs : List Figure} : fs.flatMap Figure.points = [] ↔ fs = [] := by
  rw [List.flatMap_eq_nil_iff]
  refine ⟨fun h => List.eq_nil_iff_forall_not_mem.mpr fun f hf => f.points_ne_nil (h f hf), ?_⟩
  rintro rfl f hf
  cases hf

theorem envelope_of_figures {g : Geometry} {ps : List Coordinate} (henvelope : g.envelope = Envelope.ofPoints ps)
    (hps : g.vertices = ps) :
    (g.envelope = none ↔ g.figures = []) ∧ ((∀ p ∈ g.vertices, p.IsNumber) → Encloses g.envelope g.vertices) := by
  refine ⟨?_, fun h => ?_⟩
  · rw [henvelope, Envelope.ofPoints_eq_none, ← hps, vertices, flatMap_figures_eq_nil]
  · rw [henvelope, hps]
    exact Envelope.encloses_ofPoints (hps ▸ h)

mutual

/-- There is an envelope if there is a figure, and it is the smallest rectangle around the points. -/
theorem envelope_spec : ∀ g : Geometry,
    (g.envelope = none ↔ g.figures = []) ∧ ((∀ p ∈ g.vertices, p.IsNumber) → Encloses g.envelope g.vertices)
  | .point _ => envelope_of_figures rfl rfl
  | .lineString _ => envelope_of_figures rfl (List.append_nil _)
  | .polygon _ => envelope_of_figures rfl (List.append_nil _)
  | .multiPoint ps => envelope_of_figures rfl (by
    rw [vertices, figures, List.flatMap_map]
    exact List.flatMap_singleton' ps)
  | .multiLineString _ => envelope_of_figures rfl (by rw [vertices, figures, List.flatMap_map]; rfl)
  | .multiPolygon _ => envelope_of_figures rfl (by rw [vertices, figures, List.flatMap_map]; rfl)
  | .collection members => by
    obtain ⟨hnone, hparts⟩ := envelopes_spec members
    rw [envelope, figures, Envelope.around_eq_none]
    exact ⟨hnone, fun h => Envelope.encloses_around (hparts h)⟩

theorem envelopes_spec : ∀ members : List Geometry,
    (envelopes members = [] ↔ figuresOf members = []) ∧
      ((∀ p ∈ (collection members).vertices, p.IsNumber) → Parts (envelopes members) (collection members).vertices)
  | [] => ⟨⟨fun _ => rfl, fun _ => rfl⟩, fun _ => .nil⟩
  | member :: members => by
    obtain ⟨hnone, hencloses⟩ := envelope_spec member
    obtain ⟨hnil, hparts⟩ := envelopes_spec members
    have hvertices : (collection (member :: members)).vertices = member.vertices ++ (collection members).vertices :=
      List.flatMap_append
    rw [envelopes, figuresOf, hvertices, List.append_eq_nil_iff, ← hnone, ← hnil]
    cases he : member.envelope with
    | none =>
      have hempty : member.vertices = [] := flatMap_figures_eq_nil.mpr (hnone.mp he)
      rw [hempty, List.nil_append]
      exact ⟨⟨fun h => ⟨rfl, h⟩, And.right⟩, hparts⟩
    | some e =>
      refine ⟨⟨nofun, nofun⟩, fun h => ?_⟩
      obtain ⟨hmember, hmembers⟩ := List.forall_mem_append.mp h
      rw [he] at hencloses
      exact .cons (hencloses hmember) (hparts hmembers)

end

/-- **The envelope of a geometry is its tight bounding box.**  There is none only if there is no point, line or shell
at any depth.  Its sides are the least and greatest ordinates of their points, so that it covers them and lies in
every rectangle that does; neither the order nor the nesting of members matters. -/
theorem envelope_tight (g : Geometry) :
    (g.envelope = none ↔ g.figures = []) ∧
      ((∀ p ∈ g.vertices, p.IsNumber) →
        (∀ e, g.envelope = some e → e.Tight {p | p ∈ g.vertices} ∧ (∀ p ∈ g.vertices, e.Covers p) ∧
          ∀ b : Envelope, (∀ p ∈ g.vertices, b.Covers p) → e.Within b) ∧
        (∀ g' : Geometry, (∀ p, p ∈ g'.vertices ↔ p ∈ g.vertices) → (g.envelope == g'.envelope) = true) ∧
        ∀ g', Rearranged [g] [g'] → (g.envelope == g'.envelope) = true) := by
  obtain ⟨hnone, hencloses⟩ := envelope_spec g
  refine ⟨hnone, fun hnumbers => ?_⟩
  have hsame : ∀ g' : Geometry, (∀ p, p ∈ g'.vertices ↔ p ∈ g.vertices) → (g.envelope == g'.envelope) = true :=
    fun g' hmem => (hencloses hnumbers).unique ((envelope_spec g').2 fun p hp => hnumbers p ((hmem p).mp hp)) hmem
  refine ⟨fun e he => ?_, hsame, fun g' h => hsame g' h.mem_vertices⟩
  have htight : Encloses (some e) g.vertices := he ▸ hencloses hnumbers
  exact ⟨htight, fun p hp => Envelope.Tight.covers htight hp, fun b hb => Envelope.Tight.within htight hb⟩

def apex : Geometry := .point ⟨4, -1⟩

def slope : Geometry := .lineString ⟨[⟨1, 5⟩, ⟨2, 3⟩], by decide⟩

/-- The point and the line, with empty members at both depths. -/
def nested : Geometry := .collection [.multiPoint [], .collection [.collection [], apex], slope]

def flat : Geometry := .collection [slope, apex]

theorem nested_rearranged : Rearranged [nested] [flat] := by
  have hinner : Rearranged [.collection [.collection [], apex]] [apex] :=
    .trans (.members _) (.append (.members []) (.perm (.refl [apex])))
  have hmembers : Rearranged [.multiPoint [], .collection [.collection [], apex], slope] [apex, slope] :=
    .append (.points []) (.append hinner (.perm (.refl [slope])))
  exact .trans (.members _) (.trans hmembers (.trans (.perm (.swap slope apex [])) (.symm (.members _))))

theorem nested_isNumber : ∀ p ∈ nested.vertices, p.IsNumber := by
  have hnumber : ∀ p ∈ nested.vertices, p.x.isNaN = false ∧ p.y.isNaN = false := by decide +kernel
  exact fun p hp => ⟨Floating.isNaN_eq_false_iff.mp (hnumber p hp).1, Floating.isNaN_eq_false_iff.mp (hnumber p hp).2⟩

theorem envelope_tight_nested :
    (∀ p ∈ nested.vertices, p.IsNumber) ∧ Rearranged [nested] [flat] ∧
      Envelope.Tight ⟨1, 4, -1, 5⟩ {p | p ∈ nested.vertices} ∧ (nested.envelope == flat.envelope) = true := by
  obtain ⟨_, hspec⟩ := envelope_tight nested
  obtain ⟨htight, _, hsame⟩ := hspec nested_isNumber
  exact ⟨nested_isNumber, nested_rearranged, (htight _ rfl).1, hsame flat nested_rearranged⟩

end Geometry

end GeoFilter
