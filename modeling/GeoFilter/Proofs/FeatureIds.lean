import GeoFilter.Proofs.Compilation
import GeoFilter.Proofs.Ensures

/-!
# Where identifiers of features come from

A tree has a list of identifiers in it only if the reading of its statement completes such a list: with that reduction
refused, no filter makes a tree with identifiers.
-/

namespace GeoFilter

open Translation (read)

namespace Predicate

mutual

def hasIds : Predicate → Bool
  | .featureIds _ => true
  | .and children | .or children => anyHasIds children
  | .not child => hasIds child
  | .includeAll | .excludeAll | .comparison .. | .spatial .. | .distance .. | .isNull _ | .like .. | .between .. => false

def anyHasIds : List Predicate → Bool
  | [] => false
  | p :: ps => hasIds p || anyHasIds ps

end

theorem anyHasIds_eq (ps : List Predicate) : anyHasIds ps = ps.any hasIds := by
  induction ps with
  | nil => rfl
  | cons p ps ih => rw [anyHasIds, ih, List.any_cons]

theorem any_hasIds_conjuncts (p : Predicate) : p.conjuncts.any hasIds = p.hasIds := by
  cases p with
  | and children => rw [conjuncts, hasIds, anyHasIds_eq]
  | _ => simp [conjuncts]

theorem any_hasIds_disjuncts (p : Predicate) : p.disjuncts.any hasIds = p.hasIds := by
  cases p with
  | or children => rw [disjuncts, hasIds, anyHasIds_eq]
  | _ => simp [disjuncts]

theorem hasIds_flatAnd (p q : Predicate) : (p.flatAnd q).hasIds = (p.hasIds || q.hasIds) := by
  rw [flatAnd, hasIds, anyHasIds_eq, List.any_append, any_hasIds_conjuncts, any_hasIds_conjuncts]

theorem hasIds_flatOr (ps : List Predicate) : (flatOr ps).hasIds = ps.any hasIds := by
  have hall : (ps.flatMap disjuncts).any hasIds = ps.any hasIds := by
    rw [List.any_flatMap]
    simp only [any_hasIds_disjuncts]
  rw [← hall]
  unfold flatOr
  split
  case h_1 p hp => simp [hp]
  case h_2 => rw [hasIds, anyHasIds_eq]

theorem hasIds_negatedWhen (negated : Bool) (p : Predicate) : (negatedWhen .plain negated p).hasIds = p.hasIds := by
  cases negated with
  | true =>
    show (Predicate.not p).hasIds = p.hasIds
    rw [hasIds]
  | false => rfl

theorem hasIds_anyOf (x : Expression) (ys : List Expression) : (anyOf .plain x ys).hasIds = false := by
  change (flatOr (ys.map _)).hasIds = false
  rw [hasIds_flatOr, List.any_map, List.any_eq_false]
  intro y _ h
  cases h

end Predicate

/-! ### Lists of identifiers refused -/

/-- The plain setting of a dialect in which no list of identifiers may be completed. -/
def withoutIds (dialect : Dialect) (resolver : CrsResolver) : Setting :=
  ⟨dialect, ⟨.plain, resolver⟩, fun r => decide (r.production ≠ .featureIdPredicate)⟩

/-- Whether a translation makes predicates without identifiers only. -/
abbrev EnsuresNoIds (c : Translation Predicate) : Prop :=
  Ensures (fun _ => True) Anything c fun p => p.hasIds = false

namespace EnsuresNoIds

variable {dialect : Dialect} {resolver : CrsResolver}

theorem part {c : Translation α} : Ensures (fun _ => True) Anything c fun _ => True :=
  fun _ _ _ _ _ _ => ⟨trivial, fun _ _ => trivial⟩

theorem after {c : Translation α} {f : α → Translation Predicate} (hf : ∀ a, EnsuresNoIds (f a)) :
    EnsuresNoIds (c >>= f) :=
  part.bind fun a _ => hf a

theorem featureIds : EnsuresNoIds (Translation.featureIds (withoutIds dialect resolver)) := by
  refine after fun keyword => after fun ids => ?_
  intro input p rest _ _ h
  obtain ⟨hpermits, _⟩ := Translation.complete_eq_ok h
  cases hpermits

theorem spatial (levels : Nat) (op : SpatialOp) :
    EnsuresNoIds (Translation.spatial (withoutIds dialect resolver) levels op) :=
  after fun _ => after fun _ => after fun _ => after fun _ => after fun _ => after fun _ => .complete_ok _ _ rfl

theorem bbox (levels : Nat) : EnsuresNoIds (Translation.bbox (withoutIds dialect resolver) levels) := by
  refine after fun _ => after fun _ => after fun _ => after fun _ => after fun _ => after fun _ => after fun _ =>
    after fun _ => after fun _ => .complete _ _ fun p hp => ?_
  unfold boxed at hp
  split at hp
  · cases hp
    rfl
  · cases hp

theorem distance (levels : Nat) (op : DistanceOp) :
    EnsuresNoIds (Translation.distance (withoutIds dialect resolver) levels op) := by
  refine after fun _ => after fun _ => after fun _ => after fun _ => after fun _ => after fun _ => after fun _ =>
    after fun _ => after fun _ => after fun _ => .complete _ _ fun p hp => ?_
  unfold distant at hp
  dsimp only at hp
  split at hp
  · cases hp
    rfl
  · cases hp

theorem relate (levels : Nat) : EnsuresNoIds (Translation.relate (withoutIds dialect resolver) levels) := by
  refine after fun _ => after fun _ => after fun _ => after fun _ => after fun _ => after fun comma? => ?_
  cases comma? with
  | some _ => exact after fun _ => after fun _ => after fun _ => after fun _ => .complete_ok _ _ rfl
  | none => exact after fun _ => .complete_ok _ _ rfl

section Tests

variable (left : Expression) (production : Production) (negated : Bool) (token : SourceToken)

theorem inList (levels : Nat) : EnsuresNoIds
    (Translation.inList (withoutIds dialect resolver) levels production negated left token) :=
  after fun _ => .complete_ok _ _ ((Predicate.hasIds_negatedWhen _ _).trans (Predicate.hasIds_anyOf _ _))

theorem like (ignoringCase : Bool) : EnsuresNoIds
    (Translation.like (withoutIds dialect resolver) production ignoringCase negated left token) :=
  after fun _ => after fun _ => .complete_ok _ _ (Predicate.hasIds_negatedWhen _ _)

theorem between (levels : Nat) : EnsuresNoIds
    (Translation.between (withoutIds dialect resolver) levels production negated left token) :=
  after fun _ => after fun _ => after fun _ => .complete_ok _ _ (Predicate.hasIds_negatedWhen _ _)

theorem isNull : EnsuresNoIds (Translation.isNull (withoutIds dialect resolver) left token) :=
  after fun _ => after fun _ => .complete_ok _ _ (Predicate.hasIds_negatedWhen _ _)

theorem negatedTest (levels : Nat) :
    EnsuresNoIds (Translation.negatedTest (withoutIds dialect resolver) levels left token) := by
  refine after fun token? => ?_
  split
  · exact after fun _ => inList _ _ _ _ _
  · exact after fun _ => like _ _ _ _ _
  · exact after fun _ => like _ _ _ _ _
  · exact after fun _ => between _ _ _ _ _
  · exact Ensures.unexpected _

theorem keywordTest (levels : Nat) (keyword? : Option Keyword) :
    EnsuresNoIds (Translation.keywordTest (withoutIds dialect resolver) levels left keyword?) := by
  unfold Translation.keywordTest
  dsimp only
  split
  · exact after fun _ => negatedTest _ _ _
  · exact after fun _ => inList _ _ _ _ _
  · exact after fun _ => like _ _ _ _ _
  · exact after fun _ => like _ _ _ _ _
  · exact after fun _ => between _ _ _ _ _
  · exact after fun _ => isNull _ _
  · exact Ensures.unexpected _

theorem valueTest (levels : Nat) : EnsuresNoIds (Translation.valueTest (withoutIds dialect resolver) levels) := by
  refine after fun left => after fun token? => ?_
  split
  · exact Ensures.unexpected _
  · split
    · exact after fun _ => after fun _ => .complete_ok _ _ rfl
    · exact keywordTest _ _ _

end Tests

theorem simplePredicate (levels : Nat) (keyword? : Option Keyword) (called : Bool) :
    EnsuresNoIds (Translation.simplePredicate (withoutIds dialect resolver) levels keyword? called) := by
  unfold Translation.simplePredicate
  split
  · exact after fun _ => .complete_ok _ _ rfl
  · exact after fun _ => .complete_ok _ _ rfl
  · exact spatial _ _
  · exact featureIds
  · split
    · exact featureIds
    · exact valueTest _
  · exact bbox _
  · exact distance _ _
  · exact distance _ _
  · exact relate _
  · exact valueTest _

theorem nested {inner? : Option (Translation Predicate)} (hinner : ∀ inner ∈ inner?, EnsuresNoIds inner)
    (opener : SourceToken) : EnsuresNoIds (Translation.nested inner? opener) :=
  Ensures.nested hinner opener

theorem primary {group? : Option (Translation Predicate)} (hgroup : ∀ group ∈ group?, EnsuresNoIds group)
    (levels : Nat) : EnsuresNoIds (Translation.primary (withoutIds dialect resolver) levels group?) := by
  refine after fun token? => ?_
  split
  · exact Ensures.unexpected _
  · split
    · exact after fun opener => (nested hgroup opener).bind fun p hp => after fun _ => .pure hp
    · exact after fun called => simplePredicate _ _ _

theorem joined {word : String} {production : Production} {combine : Predicate → Predicate → Predicate}
    (hcombine : ∀ p q, p.hasIds = false → q.hasIds = false → (combine p q).hasIds = false)
    {item : Translation Predicate} (hitem : EnsuresNoIds item) :
    EnsuresNoIds (Translation.joined (withoutIds dialect resolver) word production combine item) := by
  have hnext : ∀ token, EnsuresNoIds
      (Translation.nextPredicate (withoutIds dialect resolver) production item token) :=
    fun token => hitem.bind fun p hp => .complete_ok _ _ hp
  refine hitem.bind fun p hp => (Ensures.repeatAfter part hnext).map fun more hmore => ?_
  exact List.foldlRecOn more combine hp fun q hq r hr => hcombine q r hq (hmore r hr)

theorem disjunctionOf {negation : Translation Predicate} (h : EnsuresNoIds negation) :
    EnsuresNoIds (Translation.disjunctionOf (withoutIds dialect resolver) negation) := by
  refine joined (fun p q hp hq => ?_) (joined (fun p q hp hq => ?_) h)
  · change (Predicate.flatOr [p, q]).hasIds = false
    rw [Predicate.hasIds_flatOr]
    simp [hp, hq]
  · change (Predicate.flatAnd p q).hasIds = false
    rw [Predicate.hasIds_flatAnd, hp, hq]
    rfl

theorem negationWith {inner? : Option (Translation Predicate)} (hinner : ∀ inner ∈ inner?, EnsuresNoIds inner)
    (levels : Nat) : EnsuresNoIds (Translation.negationWith (withoutIds dialect resolver) levels inner?) := by
  refine after fun not? => ?_
  split
  · exact (nested hinner _).bind fun p hp => .complete_ok _ _ hp
  · refine primary (fun group hgroup => ?_) levels
    obtain ⟨inner, hmem, rfl⟩ := Option.map_eq_some_iff.mp hgroup
    exact disjunctionOf (hinner inner hmem)

theorem negation (levels : Nat) : EnsuresNoIds (Translation.negation (withoutIds dialect resolver) levels) := by
  induction levels with
  | zero =>
    refine negationWith (fun inner h => ?_) _
    cases h
  | succ levels ih =>
    refine negationWith (fun inner h => ?_) _
    cases h
    exact ih

theorem filter (levels : Nat) : EnsuresNoIds (Translation.filter (withoutIds dialect resolver) levels) :=
  disjunctionOf (negation levels)

end EnsuresNoIds

/-! ### Statements -/

/-- Whether a list of identifiers is read in a filter as a predicate of its own. -/
def NamesFeatures (dialect : Dialect) (lexemes : List Lexeme) : Prop :=
  ∃ part ∈ Grammar.statementParts dialect lexemes .filter, ∃ r ∈ part.reductions, r.production = .featureIdPredicate

instance (dialect : Dialect) (lexemes : List Lexeme) : Decidable (NamesFeatures dialect lexemes) :=
  inferInstanceAs (Decidable (∃ part ∈ Grammar.statementParts dialect lexemes .filter, ∃ r ∈ part.reductions,
    r.production = .featureIdPredicate))

theorem hasIds_of_compiled {dialect : Dialect} {resolver : CrsResolver} {statement : String} {lexemes : List Lexeme}
    (hscan : scan statement = .ok lexemes) (hnames : ¬NamesFeatures dialect lexemes) {p : Predicate}
    (h : ((⟨dialect, ⟨.plain, resolver⟩⟩ : Compiler).compileFilter statement).result = .ok p) : p.hasIds = false := by
  have hpermitted : ∀ r, ¬UnpermittedIn (withoutIds dialect resolver)
      (Grammar.statementParts dialect lexemes .filter) r := by
    rintro r ⟨⟨part, hpart, hr⟩, hrefused⟩
    exact hnames ⟨part, hpart, r, hr, not_not.mp (of_decide_eq_false hrefused)⟩
  have hsaid := (compileFilter_reports (u := withoutIds dialect resolver) hscan).eq_ok hpermitted h
  have hfilter := toEnd_eq_ok.mp hsaid
  exact (EnsuresNoIds.filter maxNesting lexemes p [] (fun _ _ => trivial) trivial hfilter).1

end GeoFilter
