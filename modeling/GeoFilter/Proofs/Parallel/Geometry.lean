import GeoFilter.Proofs.Dialects.Literal
import GeoFilter.Proofs.Parallel
import GeoFilter.Proofs.WellFormed

/-!
# Geometries side by side

Numbers and geometry texts come to the same on both sides, since no toolkit has a part in them: to the number that is
written, and to a geometry that is well formed.
-/

namespace GeoFilter

open Translation (read)
open Pairing (Same Below)

variable {w : Pairing}

/-! ### Numbers -/

/-- Numbers with their signs that are read side by side, and what they come to. -/
structure Pairing.Valued (w : Pairing) (v : Number) (n n' : Option SourceToken × SourceToken) : Prop where
  signed : w.Signed n n'
  value : signedValue? n = some v

theorem Pairing.Valued.isNumber {v : Number} {n n' : Option SourceToken × SourceToken} (h : w.Valued v n n') :
    Floating.IsNumber v.toFloat := by
  obtain ⟨x, x', hx, hx'⟩ := h.signed.numeral.value
  have hnumber := h.signed.numeral.isNumber_value hx
  have hvalue := h.value
  unfold signedValue? at hvalue
  split at hvalue
  · rw [hx] at hvalue
    cases hvalue
    exact hnumber.1
  · rw [hx, Option.bind_some] at hvalue
    exact hnumber.2 v hvalue

/-- The reductions of a number and its sign never fail, and they make the same number on both sides. -/
theorem parallel_valued {production production' : Production} {n n' : Option SourceToken × SourceToken}
    (hn : w.Signed n n') :
    Parallel w (fun v v' => v' = v ∧ w.Valued v n n')
      (Translation.complete w.left production [n.2] (numberOf Number.readIntegral? n.2) >>=
        Translation.sign w.left n.1 n.2)
      (Translation.complete w.right production' [n'.2] (numberOf Number.readIntegral? n'.2) >>=
        Translation.sign w.right n'.1 n'.2) := by
  obtain ⟨x, x', hx, hx'⟩ := hn.numeral.value
  have hleft : numberOf Number.readIntegral? n.2 = .ok x := by rw [numberOf, hx]; rfl
  have hright : numberOf Number.readIntegral? n'.2 = .ok x := by rw [numberOf, hn.text_eq, hx]; rfl
  have hnegated : ∀ minus token, negated minus token x = .ok x' := fun minus token => by rw [negated, hx']; rfl
  rw [hleft, hright]
  refine .complete_bind ?_
  obtain ⟨_ | minus, token⟩ := n <;> obtain ⟨_ | minus', token'⟩ := n'
  · exact .pure ⟨rfl, hn, hx⟩
  · cases hn.minus
  · cases hn.minus
  · rw [Translation.sign, Translation.sign, hnegated, hnegated]
    exact .complete_ok ⟨rfl, hn, (congrArg (Option.bind · Number.negate?) hx).trans hx'⟩

theorem parallel_signedNumber (production : Production) :
    Parallel w (fun x y => y.1 = x.1 ∧ w.Valued x.1 x.2 y.2) (Translation.signedNumber w.left production)
      (Translation.signedNumber w.right production) := by
  simp only [Translation.signedNumber, ← Translation.bind_assoc]
  exact Parallel.signed.bind fun _ _ hn => (parallel_valued hn).map fun _ _ hv => hv

theorem parallel_signedLiteral :
    Parallel w (Same fun v => Floating.IsNumber v.toFloat) (Translation.signedLiteral w.left)
      (Translation.signedLiteral w.right) := by
  have hread : Number.readLiteral? = Number.readIntegral? := funext Number.readLiteral_eq
  unfold Translation.signedLiteral
  rw [hread]
  exact Parallel.signed.bind fun _ _ hn => (parallel_valued hn).mono fun _ _ hv => ⟨hv.1, hv.2.isNumber⟩

/-! ### Geometry texts -/

theorem parallel_coordinate :
    Parallel w (Same fun _ => True) (Translation.coordinate w.left) (Translation.coordinate w.right) := by
  refine (parallel_signedNumber _).bind ?_
  rintro ⟨x, n⟩ ⟨_, n'⟩ ⟨rfl, _⟩
  refine (parallel_signedNumber _).bind ?_
  rintro ⟨y, m⟩ ⟨_, m'⟩ ⟨rfl, _⟩
  exact .complete_ok ⟨rfl, trivial⟩

theorem values_orDegenerate {r : Except GeometryError α} {P : α → Prop} (h : ∀ a, r = .ok a → P a)
    {token token' : SourceToken} (htoken : w.source token token') :
    w.Values (Same P) (orDegenerate token r) (orDegenerate token' r) := by
  cases r with
  | ok a => exact .value ⟨rfl, h a rfl⟩
  | error e => exact .stop (w.halts_finding (.geometry e htoken))

theorem parallel_lineBody (role : GeometryRole) {token token' : SourceToken} (htoken : w.source token token') :
    Parallel w (Same fun _ => True) (Translation.lineBody w.left role token)
      (Translation.lineBody w.right role token') := by
  refine (Parallel.parenthesized (.commaSeparated_same parallel_coordinate)).bind ?_
  rintro ⟨p, ps⟩ _ ⟨rfl, _⟩
  exact .complete (values_orDegenerate (fun _ _ => trivial) htoken)

theorem parallel_ring : Parallel w (Same fun _ => True) (Translation.ring w.left) (Translation.ring w.right) :=
  (Parallel.here _).bind fun _ _ htoken => parallel_lineBody .ring htoken

theorem parallel_polygonBody (role : GeometryRole) {token token' : SourceToken} (htoken : w.source token token') :
    Parallel w (Same Polygon.WellFormed) (Translation.polygonBody w.left role token)
      (Translation.polygonBody w.right role token') := by
  refine (Parallel.parenthesized (.commaSeparated_same parallel_ring)).bind ?_
  rintro ⟨shell, holes⟩ _ ⟨rfl, _⟩
  exact .complete (values_orDegenerate (fun _ => Polygon.wellFormed_of_ofRings) htoken)

theorem parallel_memberPoint :
    Parallel w (Same fun _ => True) (Translation.memberPoint w.left) (Translation.memberPoint w.right) := by
  refine (Parallel.here _).bind fun token token' htoken => (Parallel.accept _).bind fun paren? paren?' hparen => ?_
  cases hparen with
  | none => exact parallel_coordinate.bind fun p p' hp => .complete_ok hp
  | some => exact parallel_coordinate.bind fun p p' hp => (Parallel.require _).bind fun _ _ _ => .complete_ok hp

theorem parallel_memberLine :
    Parallel w (Same fun _ => True) (Translation.memberLine w.left) (Translation.memberLine w.right) :=
  (Parallel.here _).bind fun _ _ htoken => parallel_lineBody _ htoken

theorem parallel_memberPolygon :
    Parallel w (Same Polygon.WellFormed) (Translation.memberPolygon w.left) (Translation.memberPolygon w.right) :=
  (Parallel.here _).bind fun _ _ htoken => parallel_polygonBody _ htoken

section Shapes

variable {levels : Nat} {member? member?' : Option (Translation Geometry)}
  (hmember : Parallel.Inner w (fun _ => Same Geometry.WellFormed) levels member? member?')

include hmember

theorem parallel_shapeBody (role : GeometryRole) {token token' : SourceToken} (htoken : w.source token token')
    (shape : Shape) :
    Parallel w (Same Geometry.WellFormed) (Translation.shapeBody w.left member? role token shape)
      (Translation.shapeBody w.right member?' role token' shape) := by
  cases shape with
  | point =>
    refine (Parallel.parenthesized parallel_coordinate).bind ?_
    rintro _ p ⟨rfl, _⟩
    exact .complete_ok ⟨rfl, .point⟩
  | lineString =>
    refine (parallel_lineBody role htoken).map ?_
    rintro _ line ⟨rfl, _⟩
    exact ⟨rfl, .lineString line.enough⟩
  | polygon =>
    refine (parallel_polygonBody role htoken).map ?_
    rintro _ region ⟨rfl, hregion⟩
    exact ⟨rfl, .polygon hregion⟩
  | multiPoint =>
    refine (Parallel.parenthesized (.commaSeparated_same parallel_memberPoint)).bind ?_
    rintro ⟨p, ps⟩ _ ⟨rfl, _⟩
    exact .complete_ok ⟨rfl, .multiPoint (List.cons_ne_nil _ _)⟩
  | multiLineString =>
    refine (Parallel.parenthesized (.commaSeparated_same parallel_memberLine)).bind ?_
    rintro ⟨line, lines⟩ _ ⟨rfl, _⟩
    exact .complete_ok ⟨rfl, .multiLineString (List.cons_ne_nil _ _) fun l _ => l.enough⟩
  | multiPolygon =>
    refine (Parallel.parenthesized (.commaSeparated_same parallel_memberPolygon)).bind ?_
    rintro ⟨region, regions⟩ _ ⟨rfl, hregions⟩
    exact .complete_ok ⟨rfl, .multiPolygon (List.cons_ne_nil _ _) hregions⟩
  | collection =>
    have hnested : Parallel w (Same Geometry.WellFormed) (Translation.nested member? token)
        (Translation.nested member?' token') := (Parallel.nested hmember htoken).mono fun _ _ h => h.const
    refine .complete_bind ((Parallel.parenthesized (.commaSeparated_same hnested)).bind ?_)
    rintro ⟨g, gs⟩ _ ⟨rfl, hgs⟩
    exact .complete_ok ⟨rfl, .collection (List.cons_ne_nil _ _) hgs⟩

theorem parallel_shapeText (role : GeometryRole) :
    Parallel w (Same Geometry.WellFormed) (Translation.shapeText w.left member? role)
      (Translation.shapeText w.right member?' role) := by
  refine Parallel.peek.bind fun token? token?' htoken => ?_
  have hkeyword : token?'.bind Token.keyword? = token?.bind Token.keyword? := by
    cases htoken with
    | none => rfl
    | some h => exact h.keyword
  rw [hkeyword]
  split
  · exact (Parallel.next _).bind fun token token' htoken => parallel_shapeBody hmember role htoken.source _
  · exact .unexpected _

end Shapes

theorem parallel_geometryText (levels : Nat) (role : GeometryRole) :
    Parallel w (Same Geometry.WellFormed) (Translation.geometryText w.left levels role)
      (Translation.geometryText w.right levels role) := by
  induction levels generalizing role with
  | zero => exact parallel_shapeText .none role
  | succ levels ih =>
    have hmember : Parallel.Inner w (fun _ => Same Geometry.WellFormed) (levels + 1) _ _ := .some (ih .collectionMember)
    exact parallel_shapeText hmember role

theorem parallel_geometryLiteral (levels : Nat) :
    Parallel w (Same Geometry.WellFormed) (Translation.geometryLiteral w.left levels)
      (Translation.geometryLiteral w.right levels) :=
  (Parallel.here _).bind fun _ _ _ => (parallel_geometryText levels .root).bind fun _ _ hg => .complete_ok hg

end GeoFilter
