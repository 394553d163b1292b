import GeoFilter.Text.Case
import GeoFilter.Tree.Expression

/-!
# Predicates

Conditions on a feature: comparisons, spatial relations, distances, identifiers, patterns, ranges, and
their combinations by AND, OR and NOT.
-/

namespace GeoFilter

/-- The operators of comparison. -/
inductive ComparisonOp where
  | eq
  | notEq
  | lt
  | ltEq
  | gt
  | gtEq
  deriving DecidableEq, Repr

namespace ComparisonOp

def symbol : ComparisonOp → String
  | eq => "="
  | notEq => "<>"
  | lt => "<"
  | ltEq => "<="
  | gt => ">"
  | gtEq => ">="

def label : ComparisonOp → String
  | eq => "Eq"
  | notEq => "NotEq"
  | lt => "Lt"
  | ltEq => "LtEq"
  | gt => "Gt"
  | gtEq => "GtEq"

def holds : ComparisonOp → Ordering → Bool
  | eq, o => o == .eq
  | notEq, o => o != .eq
  | lt, o => o == .lt
  | ltEq, o => o != .gt
  | gt, o => o == .gt
  | gtEq, o => o != .lt

end ComparisonOp

/-- The spatial relations.  All but `bbox` are written as a routine with two arguments. -/
inductive SpatialOp where
  | equals
  | disjoint
  | intersects
  | touches
  | crosses
  | within
  | contains
  | overlaps
  | bbox
  deriving DecidableEq, Repr

namespace SpatialOp

def symbol : SpatialOp → String
  | equals => "EQUALS"
  | disjoint => "DISJOINT"
  | intersects => "INTERSECTS"
  | touches => "TOUCHES"
  | crosses => "CROSSES"
  | within => "WITHIN"
  | contains => "CONTAINS"
  | overlaps => "OVERLAPS"
  | bbox => "BBOX"

def label : SpatialOp → String
  | equals => "Equals"
  | disjoint => "Disjoint"
  | intersects => "Intersects"
  | touches => "Touches"
  | crosses => "Crosses"
  | within => "Within"
  | contains => "Contains"
  | overlaps => "Overlaps"
  | bbox => "BBox"

/-- The relations that are written as a routine with two arguments. -/
def routines : List SpatialOp :=
  [equals, disjoint, intersects, touches, crosses, within, contains, overlaps]

def ofRoutine? (name : String) : Option SpatialOp :=
  let upper := Text.upperCased name
  routines.find? fun op => op.symbol == upper

end SpatialOp

/-- The conditions on a distance. -/
inductive DistanceOp where
  | dwithin
  | beyond
  deriving DecidableEq, Repr

namespace DistanceOp

def symbol : DistanceOp → String
  | dwithin => "DWITHIN"
  | beyond => "BEYOND"

def label : DistanceOp → String
  | dwithin => "DWithin"
  | beyond => "Beyond"

end DistanceOp

/-- The units of a distance. -/
inductive DistanceUnits where
  | meters
  | kilometers
  | feet
  | statuteMiles
  | nauticalMiles
  deriving DecidableEq, Repr

namespace DistanceUnits

def symbol : DistanceUnits → String
  | meters => "meters"
  | kilometers => "kilometers"
  | feet => "feet"
  | statuteMiles => "statute miles"
  | nauticalMiles => "nautical miles"

def all : List DistanceUnits :=
  [meters, kilometers, feet, statuteMiles, nauticalMiles]

/-- The units that a text names, in any case and with any blanks around its words. -/
def ofText? (text : String) : Option DistanceUnits :=
  let lower := Text.lowerCased (" ".intercalate (Text.blankSeparated text))
  all.find? fun units => units.symbol == lower

end DistanceUnits

/-- Identifiers of features, without repetitions, in the order in which they were first seen. -/
structure FeatureIdSet where
  ids : List String
  deriving DecidableEq, Repr

namespace FeatureIdSet

def firstSeen : List String → List String
  | [] => []
  | id :: ids => id :: (firstSeen ids).filter (· ≠ id)

def ofList (ids : List String) : FeatureIdSet :=
  ⟨firstSeen ids⟩

def size (s : FeatureIdSet) : Nat := s.ids.length

def contains (s : FeatureIdSet) (id : String) : Bool := s.ids.contains id

end FeatureIdSet

/-- A condition on a feature. -/
inductive Predicate where
  | includeAll
  | excludeAll
  | and (children : List Predicate)
  | or (children : List Predicate)
  | not (child : Predicate)
  | comparison (op : ComparisonOp) (left right : Expression)
  | spatial (op : SpatialOp) (left right : Expression)
  | distance (op : DistanceOp) (left right : Expression) (distance : Float) (units : DistanceUnits)
  | featureIds (ids : FeatureIdSet)
  | isNull (value : Expression)
  | like (value : Expression) (pattern : String) (ignoringCase : Bool)
  | between (value lower upper : Expression)

namespace Predicate

mutual

def same : Predicate → Predicate → Bool
  | .includeAll, .includeAll => true
  | .excludeAll, .excludeAll => true
  | .and as, .and bs => sameList as bs
  | .or as, .or bs => sameList as bs
  | .not a, .not b => same a b
  | .comparison op l r, .comparison op' l' r' => op == op' && l == l' && r == r'
  | .spatial op l r, .spatial op' l' r' => op == op' && l == l' && r == r'
  | .distance op l r d u, .distance op' l' r' d' u' =>
    op == op' && l == l' && r == r' && d == d' && u == u'
  | .featureIds as, .featureIds bs => as == bs
  | .isNull a, .isNull b => a == b
  | .like a p i, .like b q j => a == b && p == q && i == j
  | .between a l u, .between b l' u' => a == b && l == l' && u == u'
  | _, _ => false

def sameList : List Predicate → List Predicate → Bool
  | [], [] => true
  | a :: as, b :: bs => same a b && sameList as bs
  | _, _ => false

end

instance : BEq Predicate := ⟨same⟩

mutual

/-- The text of a predicate, with parentheses around every AND and OR. -/
def toText : Predicate → String
  | .includeAll => "INCLUDE"
  | .excludeAll => "EXCLUDE"
  | .and children => "(" ++ " AND ".intercalate (texts children) ++ ")"
  | .or children => "(" ++ " OR ".intercalate (texts children) ++ ")"
  | .not child => "NOT " ++ toText child
  | .comparison op left right => left.toText ++ " " ++ op.symbol ++ " " ++ right.toText
  | .spatial op left right => op.symbol ++ "(" ++ left.toText ++ ", " ++ right.toText ++ ")"
  | .distance op left right d units =>
    op.symbol ++ "(" ++ left.toText ++ ", " ++ right.toText ++ ", " ++ Decimal.showFloat d ++ ", "
      ++ units.symbol ++ ")"
  | .featureIds s => "IN (" ++ ", ".intercalate (s.ids.map Text.singleQuoted) ++ ")"
  | .isNull value => value.toText ++ " IS NULL"
  | .like value pattern ignoringCase =>
    value.toText ++ (if ignoringCase then " ILIKE " else " LIKE ") ++ Text.singleQuoted pattern
  | .between value lower upper =>
    value.toText ++ " BETWEEN " ++ lower.toText ++ " AND " ++ upper.toText

def texts : List Predicate → List String
  | [] => []
  | p :: ps => toText p :: texts ps

end

end Predicate

end GeoFilter
