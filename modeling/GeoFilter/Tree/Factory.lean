import GeoFilter.Tree.Predicate

/-!
# Tree factories

A `TreeFactory` makes the nodes of trees.  Its fields default to the plain node of each kind, except
that AND and OR take in the children of a node of their own kind; a factory that overrides some fields
can change, count or replace those nodes and leave the others alone.
-/

namespace GeoFilter

namespace Predicate

def conjuncts : Predicate → List Predicate
  | .and children => children
  | p => [p]

def disjuncts : Predicate → List Predicate
  | .or children => children
  | p => [p]

def flatAnd (left right : Predicate) : Predicate :=
  .and (left.conjuncts ++ right.conjuncts)

/-- The disjunction of some predicates, one level flat.  A single disjunct stands for itself. -/
def flatOr (predicates : List Predicate) : Predicate :=
  match predicates.flatMap disjuncts with
  | [p] => p
  | ps => .or ps

end Predicate

/-- Makes the nodes of trees. -/
structure TreeFactory where
  includeAll : Predicate := .includeAll
  excludeAll : Predicate := .excludeAll
  and : Predicate → Predicate → Predicate := Predicate.flatAnd
  orAll : List Predicate → Predicate := Predicate.flatOr
  or : Predicate → Predicate → Predicate := fun left right => orAll [left, right]
  not : Predicate → Predicate := .not
  compare : ComparisonOp → Expression → Expression → Predicate := .comparison
  spatial : SpatialOp → Expression → Expression → Predicate := .spatial
  distance : DistanceOp → Expression → Expression → Float → DistanceUnits → Predicate := .distance
  featureIds : List String → Predicate := fun ids => .featureIds (FeatureIdSet.ofList ids)
  isNull : Expression → Predicate := .isNull
  like : Expression → String → Bool → Predicate := .like
  between : Expression → Expression → Expression → Predicate := .between
  property : List String → Expression := fun segments => .property ⟨segments⟩
  literal : Literal → Expression := .literal
  function : String → List Expression → Expression := .function
  arithmetic : ArithmeticOp → Expression → Expression → Expression := .arithmetic

namespace TreeFactory

def plain : TreeFactory where

/-- Makes plain nodes, but every pattern ignores case. -/
def ignoringCase : TreeFactory where
  like value pattern _ := .like value pattern true

/-- The makers of a factory, to tell which of them was used. -/
inductive Maker where
  | includeAll
  | excludeAll
  | and
  | orAll
  | or
  | not
  | compare
  | spatial
  | distance
  | featureIds
  | isNull
  | like
  | between
  | property
  | literal
  | function
  | arithmetic
  deriving DecidableEq, Repr

end TreeFactory

end GeoFilter
