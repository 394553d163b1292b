import GeoFilter.Proofs.Envelope
import GeoFilter.Proofs.Translation.Geometry

/-!
# Rectangles between bounds

The ring around the rectangle between two abscissas and two ordinates has the envelope of two opposite corners, whichever
they are.  Two rectangles share a point if and only if neither ends before the other starts, along either axis.
-/

namespace GeoFilter

open Floating (IsNumber)

/-- Whether a number lies between two others, given in either order; the ends belong to it. -/
def Floating.Between (x x' z : Float) : Prop :=
  (x ≤ z ∧ z ≤ x') ∨ (x' ≤ z ∧ z ≤ x)

namespace Envelope

variable {a b e : Envelope} {ps qs : Set Coordinate} {x x' y y' : Float}

theorem Tight.ordered (h : e.Tight ps) : e.minX ≤ e.maxX ∧ e.minY ≤ e.maxY :=
  ⟨h.minX.2 h.maxX.1, h.minY.2 h.maxY.1⟩

/-! ### Bounds -/

def corners (x x' y y' : Float) : Set Coordinate := {⟨x, y⟩, ⟨x', y'⟩}

theorem image_x_corners : Coordinate.x '' corners x x' y y' = {x} ∪ {x'} := by
  rw [corners, Set.image_pair, Set.insert_eq]

theorem image_y_corners : Coordinate.y '' corners x x' y y' = {y} ∪ {y'} := by
  rw [corners, Set.image_pair, Set.insert_eq]

theorem tight_between (hx : IsNumber x) (hx' : IsNumber x') (hy : IsNumber y) (hy' : IsNumber y') :
    (between x x' y y').Tight (corners x x' y y') := by
  constructor
  · rw [image_x_corners]
    exact isLeast_union (isLeast_singleton hx) (isLeast_singleton hx')
  · rw [image_x_corners, Set.union_comm]
    exact isGreatest_union (isGreatest_singleton hx') (isGreatest_singleton hx)
  · rw [image_y_corners]
    exact isLeast_union (isLeast_singleton hy) (isLeast_singleton hy')
  · rw [image_y_corners, Set.union_comm]
    exact isGreatest_union (isGreatest_singleton hy') (isGreatest_singleton hy)

theorem between_iff {m M z : Float} (hm : IsLeast {x, x'} m) (hM : IsGreatest {x, x'} M) :
    m ≤ z ∧ z ≤ M ↔ Floating.Between x x' z := by
  have hx : x ∈ ({x, x'} : Set Float) := .inl rfl
  have hx' : x' ∈ ({x, x'} : Set Float) := .inr rfl
  constructor
  · rintro ⟨hlow, hhigh⟩
    rcases hm.1 with rfl | rfl <;> rcases hM.1 with rfl | rfl
    · exact .inl ⟨hlow, Floating.le_trans_of_isNumber hhigh (hm.2 hx')⟩
    · exact .inl ⟨hlow, hhigh⟩
    · exact .inr ⟨hlow, hhigh⟩
    · exact .inr ⟨hlow, Floating.le_trans_of_isNumber hhigh (hm.2 hx)⟩
  · rintro (⟨hlow, hhigh⟩ | ⟨hlow, hhigh⟩)
    · exact ⟨Floating.le_trans_of_isNumber (hm.2 hx) hlow, Floating.le_trans_of_isNumber hhigh (hM.2 hx')⟩
    · exact ⟨Floating.le_trans_of_isNumber (hm.2 hx') hlow, Floating.le_trans_of_isNumber hhigh (hM.2 hx)⟩

theorem Tight.covers_iff (h : e.Tight (corners x x' y y')) (q : Coordinate) :
    e.Covers q ↔ Floating.Between x x' q.x ∧ Floating.Between y y' q.y := by
  obtain ⟨hminX, hmaxX, hminY, hmaxY⟩ := h
  rw [image_x_corners, ← Set.insert_eq] at hminX hmaxX
  rw [image_y_corners, ← Set.insert_eq] at hminY hmaxY
  exact and_congr (between_iff hminX hmaxX) (between_iff hminY hmaxY)

/-! ### Rings around rectangles -/

theorem isLeast_of_ends {s : Set Float} {m M z : Float} (hm : IsLeast s m) (hM : IsGreatest s M)
    (h : IsLeast {m, M} z) : IsLeast s z := by
  refine ⟨?_, fun w hw => Floating.le_trans_of_isNumber (h.2 (.inl rfl)) (hm.2 hw)⟩
  rcases h.1 with rfl | rfl
  · exact hm.1
  · exact hM.1

theorem isGreatest_of_ends {s : Set Float} {m M z : Float} (hm : IsLeast s m) (hM : IsGreatest s M)
    (h : IsGreatest {m, M} z) : IsGreatest s z := by
  refine ⟨?_, fun w hw => Floating.le_trans_of_isNumber (hM.2 hw) (h.2 (.inr rfl))⟩
  rcases h.1 with rfl | rfl
  · exact hm.1
  · exact hM.1

/-- The ring around a rectangle has the envelope of what the rectangle is around. -/
theorem Tight.rectangle (h : e.Tight ps) :
    ∃ e', (Geometry.polygon (Polygon.rectangle e)).envelope = some e' ∧ e'.Tight ps := by
  let ring := (Polygon.rectangle e).shell.points
  obtain ⟨hminX, hmaxX⟩ := Floating.isNumber_of_le h.ordered.1
  obtain ⟨hminY, hmaxY⟩ := Floating.isNumber_of_le h.ordered.2
  have hring : ∀ p ∈ ring, p.IsNumber := by
    simp only [ring, Polygon.rectangle, List.forall_mem_cons]
    exact ⟨⟨hminX, hminY⟩, ⟨hminX, hmaxY⟩, ⟨hmaxX, hmaxY⟩, ⟨hmaxX, hminY⟩, ⟨hminX, hminY⟩, nofun⟩
  have hx : Coordinate.x '' {p | p ∈ ring} = {e.minX, e.maxX} := by
    ext x
    simp only [Polygon.rectangle, List.mem_cons, List.not_mem_nil, or_false, Set.mem_image, Set.mem_ofPred_eq, eq_comm,
      exists_eq_or_imp, ↓existsAndEq, true_and, or_self_left, Set.mem_insert_iff, Set.mem_singleton_iff, ring]
    tauto
  have hy : Coordinate.y '' {p | p ∈ ring} = {e.minY, e.maxY} := by
    ext y
    simp only [Polygon.rectangle, List.mem_cons, List.not_mem_nil, or_false, Set.mem_image, Set.mem_ofPred_eq, eq_comm,
      exists_eq_or_imp, ↓existsAndEq, true_and, or_self, or_self_left, Set.mem_insert_iff, Set.mem_singleton_iff, ring]
    tauto
  obtain ⟨e', henvelope, htight⟩ := (encloses_ofPoints hring).exists_tight nofun
  refine ⟨e', henvelope, ?_, ?_, ?_, ?_⟩
  · exact isLeast_of_ends h.minX h.maxX (hx ▸ htight.minX)
  · exact isGreatest_of_ends h.minX h.maxX (hx ▸ htight.maxX)
  · exact isLeast_of_ends h.minY h.maxY (hy ▸ htight.minY)
  · exact isGreatest_of_ends h.minY h.maxY (hy ▸ htight.maxY)

section Equal

variable {z z' w w' : Float} (hx : (x == z) = true) (hx' : (x' == z') = true) (hy : (y == w) = true)
  (hy' : (y' == w') = true)

include hx hx' hy hy'

theorem rectangle_same : (rectangle x x' y y' == rectangle z z' w w') = true := by
  have hminX := Floating.beq_least hx hx'
  have hmaxX := Floating.beq_greatest hx' hx
  have hminY := Floating.beq_least hy hy'
  have hmaxY := Floating.beq_greatest hy' hy
  have hpoint : ∀ {p q : Coordinate}, (p.x == q.x) = true → (p.y == q.y) = true → (p == q) = true :=
    fun hx hy => Bool.and_eq_true_iff.mpr ⟨hx, hy⟩
  refine Bool.and_eq_true_iff.mpr ⟨?_, rfl⟩
  change ((Polygon.rectangle (between x x' y y')).shell.points ==
    (Polygon.rectangle (between z z' w w')).shell.points) = true
  simp only [Polygon.rectangle, List.cons_beq_cons, Bool.and_eq_true]
  exact ⟨hpoint hminX hminY, hpoint hminX hmaxY, hpoint hmaxX hmaxY, hpoint hmaxX hminY, hpoint hminX hminY, rfl⟩

theorem Tight.beq_of_bounds (ha : a.Tight (corners x x' y y')) (hb : b.Tight (corners z z' w w')) : (a == b) = true := by
  have hcovers : ∀ {e : Envelope} {p q : Coordinate}, e.Covers p → (p.x == q.x) = true → (p.y == q.y) = true →
      e.Covers q := fun h hx hy =>
    ⟨⟨Floating.le_trans_of_isNumber h.1.1 (Floating.le_of_beq hx),
      Floating.le_trans_of_isNumber (Floating.le_of_beq (Floating.beq_symm hx)) h.1.2⟩,
      Floating.le_trans_of_isNumber h.2.1 (Floating.le_of_beq hy),
      Floating.le_trans_of_isNumber (Floating.le_of_beq (Floating.beq_symm hy)) h.2.2⟩
  refine ha.beq hb ?_ ?_
  · rintro p (rfl | rfl)
    · exact hcovers (hb.covers (.inl rfl)) (Floating.beq_symm hx) (Floating.beq_symm hy)
    · exact hcovers (hb.covers (.inr rfl)) (Floating.beq_symm hx') (Floating.beq_symm hy')
  · rintro q (rfl | rfl)
    · exact hcovers (ha.covers (.inl rfl)) hx hy
    · exact hcovers (ha.covers (.inr rfl)) hx' hy'

end Equal

/-! ### Rectangles that meet -/

/-- Two intervals share a number if and only if neither ends before the other starts. -/
theorem exists_shared {m M n N : Float} (h : m ≤ M) (h' : n ≤ N) :
    (∃ z, (m ≤ z ∧ z ≤ M) ∧ n ≤ z ∧ z ≤ N) ↔ m ≤ N ∧ n ≤ M := by
  obtain ⟨hm, hM⟩ := Floating.isNumber_of_le h
  obtain ⟨hn, hN⟩ := Floating.isNumber_of_le h'
  constructor
  · rintro ⟨z, ⟨hmz, hzM⟩, hnz, hzN⟩
    exact ⟨Floating.le_trans_of_isNumber hmz hzN, Floating.le_trans_of_isNumber hnz hzM⟩
  · rintro ⟨hmN, hnM⟩
    -- the larger of the lower ends
    have hgreatest : Floating.greatest m n ≤ M ∧ Floating.greatest m n ≤ N := by
      rcases Floating.greatest_eq m n with heq | heq <;> rw [heq]
      · exact ⟨h, hmN⟩
      · exact ⟨hnM, h'⟩
    exact ⟨Floating.greatest m n, ⟨Floating.le_greatest_left hm hn, hgreatest.1⟩, Floating.le_greatest_right hm hn,
      hgreatest.2⟩

theorem intersects_iff (ha : a.Tight ps) (hb : b.Tight qs) : a.intersects b = true ↔ ∃ q, a.Covers q ∧ b.Covers q := by
  have hx := exists_shared ha.ordered.1 hb.ordered.1
  have hy := exists_shared ha.ordered.2 hb.ordered.2
  have hmeets : a.intersects b = true ↔
      (a.minX ≤ b.maxX ∧ b.minX ≤ a.maxX) ∧ a.minY ≤ b.maxY ∧ b.minY ≤ a.maxY := by
    rw [intersects]
    simp only [Bool.and_eq_true, decide_eq_true_eq, and_assoc]
  rw [hmeets, ← hx, ← hy]
  constructor
  · rintro ⟨⟨x, hax, hbx⟩, y, hay, hby⟩
    exact ⟨⟨x, y⟩, ⟨hax, hay⟩, hbx, hby⟩
  · rintro ⟨q, ha, hb⟩
    exact ⟨⟨q.x, ha.1, hb.1⟩, q.y, ha.2, hb.2⟩

end Envelope

end GeoFilter
