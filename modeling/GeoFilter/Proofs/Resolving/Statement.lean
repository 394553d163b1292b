import GeoFilter.Proofs.Parallel.Statement
import GeoFilter.Proofs.Resolving.Predicate
import GeoFilter.Proofs.Tokenizer

/-!
# What a resolver has a part in

Two resolvers make the same of a statement but for the reference systems that they answer, unless one of them fails.
Each is compared with a resolver that answers every number: the tree of that resolver has the numbers that are written
for its geometries, each where it is written.
-/

namespace GeoFilter

/-! ### Beside the numbers -/

/-- A geometry with the number of its reference system, if it has one, and the geometry with what a resolver answers. -/
structure Resolves (resolver : CrsResolver) (g g' : GeometryLiteral) : Prop where
  geometry : g'.geometry = g.geometry
  crs : Option.Rel (fun crs crs' => resolver crs.srid = .ok crs') g.crs g'.crs

variable {dialect : Dialect} {resolver : CrsResolver} {L : List Lexeme}

/-- Expressions with the numbers of their reference systems, and with what a resolver answers. -/
abbrev Expression.Resolves (resolver : CrsResolver) : Expression → Expression → Prop :=
  SameButCrs Expression.withoutCrs Expression.geometries (GeoFilter.Resolves resolver)

/-- Predicates with the numbers of their reference systems, and with what a resolver answers. -/
abbrev Predicate.Resolves (resolver : CrsResolver) : Predicate → Predicate → Prop :=
  SameButCrs Predicate.withoutCrs Predicate.geometries (GeoFilter.Resolves resolver)

namespace Expression.Resolves

variable {x x' y y' : Expression} {args args' : List Expression}

theorem literal {g g' : GeometryLiteral} (h : GeoFilter.Resolves resolver g g') :
    Expression.Resolves resolver (.literal (.geometry g)) (.literal (.geometry g')) :=
  ⟨congrArg (fun geometry => Expression.literal (.geometry ⟨geometry, none⟩)) h.geometry, .cons h .nil⟩

theorem function (name : String) (h : List.Forall₂ (Expression.Resolves resolver) args args') :
    Expression.Resolves resolver (.function name args) (.function name args') := by
  obtain ⟨htree, hgeometries⟩ := SameButCrs.all h
  refine ⟨?_, ?_⟩
  · rw [withoutCrs, withoutCrs, withoutCrsAll_eq, withoutCrsAll_eq, htree]
  · rw [geometries, geometries, geometriesOfAll_eq, geometriesOfAll_eq]
    exact hgeometries

theorem arithmetic (op : ArithmeticOp) (hx : Expression.Resolves resolver x x')
    (hy : Expression.Resolves resolver y y') :
    Expression.Resolves resolver (.arithmetic op x y) (.arithmetic op x' y') :=
  ⟨by rw [withoutCrs, withoutCrs, hx.tree, hy.tree], List.rel_append hx.geometries hy.geometries⟩

end Expression.Resolves

namespace Predicate.Resolves

variable {x x' y y' z z' : Expression} {p p' q q' : Predicate} {ps ps' : List Predicate}

theorem comparison (op : ComparisonOp) (hx : Expression.Resolves resolver x x')
    (hy : Expression.Resolves resolver y y') :
    Predicate.Resolves resolver (.comparison op x y) (.comparison op x' y') :=
  ⟨by rw [withoutCrs, withoutCrs, hx.tree, hy.tree], List.rel_append hx.geometries hy.geometries⟩

theorem spatial (op : SpatialOp) (hx : Expression.Resolves resolver x x')
    (hy : Expression.Resolves resolver y y') :
    Predicate.Resolves resolver (.spatial op x y) (.spatial op x' y') :=
  ⟨by rw [withoutCrs, withoutCrs, hx.tree, hy.tree], List.rel_append hx.geometries hy.geometries⟩

theorem distance (op : DistanceOp) (d : Float) (units : DistanceUnits) (hx : Expression.Resolves resolver x x')
    (hy : Expression.Resolves resolver y y') :
    Predicate.Resolves resolver (.distance op x y d units) (.distance op x' y' d units) :=
  ⟨by rw [withoutCrs, withoutCrs, hx.tree, hy.tree], List.rel_append hx.geometries hy.geometries⟩

theorem related (name : String) {args args' : List Expression}
    (h : List.Forall₂ (Expression.Resolves resolver) args args') :
    Predicate.Resolves resolver (related .plain name args) (related .plain name args') :=
  comparison .eq (.function name h) ⟨rfl, .nil⟩

theorem isNull (hx : Expression.Resolves resolver x x') :
    Predicate.Resolves resolver (.isNull x) (.isNull x') :=
  ⟨by rw [withoutCrs, withoutCrs, hx.tree], hx.geometries⟩

theorem like (pattern : String) (ignoringCase : Bool) (hx : Expression.Resolves resolver x x') :
    Predicate.Resolves resolver (.like x pattern ignoringCase) (.like x' pattern ignoringCase) :=
  ⟨by rw [withoutCrs, withoutCrs, hx.tree], hx.geometries⟩

theorem between (hx : Expression.Resolves resolver x x') (hy : Expression.Resolves resolver y y')
    (hz : Expression.Resolves resolver z z') :
    Predicate.Resolves resolver (.between x y z) (.between x' y' z') :=
  ⟨by rw [withoutCrs, withoutCrs, hx.tree, hy.tree, hz.tree],
    List.rel_append hx.geometries (List.rel_append hy.geometries hz.geometries)⟩

theorem not (hp : Predicate.Resolves resolver p p') : Predicate.Resolves resolver (.not p) (.not p') :=
  ⟨by rw [withoutCrs, withoutCrs, hp.tree], hp.geometries⟩

theorem negatedWhen (negated : Bool) (hp : Predicate.Resolves resolver p p') :
    Predicate.Resolves resolver (negatedWhen .plain negated p) (negatedWhen .plain negated p') := by
  cases negated with
  | true => exact hp.not
  | false => exact hp

theorem flatAnd (hp : Predicate.Resolves resolver p p') (hq : Predicate.Resolves resolver q q') :
    Predicate.Resolves resolver (p.flatAnd q) (p'.flatAnd q') := by
  refine ⟨?_, ?_⟩
  · rw [withoutCrs_flatAnd, withoutCrs_flatAnd, hp.tree, hq.tree]
  · rw [geometries_flatAnd, geometries_flatAnd]
    exact List.rel_append hp.geometries hq.geometries

theorem flatOr (hps : List.Forall₂ (Predicate.Resolves resolver) ps ps') :
    Predicate.Resolves resolver (flatOr ps) (flatOr ps') := by
  obtain ⟨htree, hgeometries⟩ := SameButCrs.all hps
  refine ⟨?_, ?_⟩
  · rw [withoutCrs_flatOr, withoutCrs_flatOr, htree]
  · rw [geometries_flatOr, geometries_flatOr]
    exact hgeometries

theorem anyOf {ys ys' : List Expression} (hx : Expression.Resolves resolver x x')
    (hys : List.Forall₂ (Expression.Resolves resolver) ys ys') :
    Predicate.Resolves resolver (anyOf .plain x ys) (anyOf .plain x' ys') :=
  flatOr (List.forall₂_map_left_iff.mpr (List.forall₂_map_right_iff.mpr (hys.imp fun _ _ hy => comparison .eq hx hy)))

end Predicate.Resolves

/-- Whether two geometries both have a reference system, or neither has. -/
def SameQualified (g g' : GeometryLiteral) : Prop := g'.crs.isSome = g.crs.isSome

/-- What two resolvers answer for a statement: the same trees but for the reference systems of their geometries, which
are what each resolver answers for the numbers that are written for the geometries; and if the second one fails alone,
then at a number that it does not resolve. -/
structure DifferInCrs (R₁ R₂ : CrsResolver) (statement : String) (written : List Lexeme → α → Prop) (erase : α → α)
    (geometries : α → List GeometryLiteral) (result₁ result₂ : Except CompileFailure α) : Prop where
  trees : ∀ t₁ t₂, result₁ = .ok t₁ → result₂ = .ok t₂ → SameButCrs erase geometries SameQualified t₁ t₂ ∧
    ∃ L t, scan statement = .ok L ∧ written L t ∧ SameButCrs erase geometries (Resolves R₁) t t₁ ∧
      SameButCrs erase geometries (Resolves R₂) t t₂
  failure : ∀ t₁ failure, result₁ = .ok t₁ → result₂ = .error failure →
    ∃ srid token e, R₂ srid = .error e ∧
      failure = .error (Finding.inStatement ⟨.unresolvedSrid srid, token, some e⟩ statement)

theorem DifferInCrs.of_error {R₁ R₂ : CrsResolver} {statement : String} {written : List Lexeme → α → Prop}
    {erase : α → α} {geometries : α → List GeometryLiteral} {result₁ result₂ : Except CompileFailure α}
    {f : CompileFailure} (h : result₁ = .error f) :
    DifferInCrs R₁ R₂ statement written erase geometries result₁ result₂ := by
  subst h
  exact ⟨nofun, nofun⟩

end GeoFilter
