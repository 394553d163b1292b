import GeoFilter.Grammar.Predicate
import GeoFilter.Proofs.Rereading.Number
import GeoFilter.Proofs.Yield.Expression

/-!
# Trees that are shown and read again

What the trees of statements without quoted words are like, as far as reading their texts again depends on it: their
names are words as they are scanned, their numbers are finite, their geometries are not empty and their polygons are
closed, and no AND or OR has a child of its own kind.  Of all these trees, the `isRereadable` ones are shown as filters
that mean the same.
-/

namespace GeoFilter

/-! ### Levels of nesting -/

namespace Geometry

mutual

/-- How many collections around members are open at most at any point of the text of a geometry. -/
def depth : Geometry → Nat
  | .collection members => membersDepth members
  | _ => 0

def membersDepth : List Geometry → Nat
  | [] => 0
  | member :: members => max (depth member + 1) (membersDepth members)

end

end Geometry

/-- How many collections are open at most in the text of a value. -/
def Literal.depth : Literal → Nat
  | .geometry g => g.geometry.depth
  | _ => 0

namespace Expression

mutual

/-- How many parentheses, arguments and collections are open at most at any point of the text of an expression. -/
def depth : Expression → Nat
  | .property _ => 0
  | .literal value => value.depth
  | .function _ args => argumentsDepth args
  | .arithmetic _ left right => max (depth left) (depth right) + 1

def argumentsDepth : List Expression → Nat
  | [] => 0
  | arg :: args => max (depth arg + 1) (argumentsDepth args)

end

end Expression

namespace Predicate

mutual

/-- How many NOT, parentheses, arguments and collections are open at most at any point of the text of a predicate. -/
def depth : Predicate → Nat
  | .and children | .or children => childrenDepth children
  | .not child => depth child + 1
  | .comparison _ left right | .spatial _ left right | .distance _ left right _ _ => max left.depth right.depth
  | .isNull value | .like value _ _ => value.depth
  | .between value lower upper => max value.depth (max lower.depth upper.depth)
  | .includeAll | .excludeAll | .featureIds _ => 0

/-- The same for the children of an AND or an OR. -/
def childrenDepth : List Predicate → Nat
  | [] => 0
  | child :: children => max (depth child + 1) (childrenDepth children)

end

end Predicate

/-! ### Filters that are shown as filters -/

/-- Whether a test may start with the text of an expression.  At the start of a predicate a parenthesis opens a group
of predicates, and a call of `relate` is a predicate of its own. -/
def Expression.startsTest : Expression → Bool
  | .arithmetic .. => false
  | .function name _ => name != "relate"
  | _ => true

/-- Whether an expression is an attribute of the one word that qualifies geometries, in any case. -/
def Expression.isSrid : Expression → Bool
  | .property ⟨[name]⟩ => Keyword.ofText? name == some .SRID
  | _ => false

namespace Predicate

mutual

/-- Whether the text of a predicate is a filter that means the same, if the predicate is that of a statement.  The
exceptions are tests of arithmetic, the relation without a pattern, attributes that an equals sign turns into the start
of a geometry, and rectangles, which are shown as polygons. -/
def isRereadable : Predicate → Bool
  | .and children | .or children => areRereadable children
  | .not child => isRereadable child
  | .comparison op left _ => left.startsTest && !(op == .eq && left.isSrid)
  | .spatial op _ _ => op != .bbox
  | .isNull value | .like value _ _ | .between value _ _ => value.startsTest
  | .includeAll | .excludeAll | .distance .. | .featureIds _ => true

def areRereadable : List Predicate → Bool
  | [] => true
  | p :: ps => isRereadable p && areRereadable ps

end

end Predicate

/-! ### Words -/

/-- Whether a text is that of a word without quotes. -/
def IsWord (text : String) : Prop := Scan.IsUnquoted text.toList

/-- Whether a token is as statements without quoted words and too large numbers have it. -/
def Token.IsPlain : Token → Prop
  | .word text quote => quote = none ∧ IsWord text
  | .number text long => Numeral text.toList ∧ (Token.number text long).IsFinite
  | _ => True

/-- Whether a part of a name is a word without quotes. -/
def NamePart.IsPlain : NamePart → Prop
  | point text quote | colon text quote => quote = none ∧ IsWord text

/-- Whether a path is that of an attribute in words without quotes, of which the first is given. -/
def PropertyPath.StartsWith (path : PropertyPath) (first : String) : Prop :=
  IsWord first ∧ ∃ more : List NamePart, path.segments = NamePart.segments first more ∧ ∀ part ∈ more, part.IsPlain

/-- Whether a predicate that starts with a keyword is a test of an operand that starts with it; `called` tells whether
a parenthesis follows. -/
def Keyword.leadsTest (called : Bool) : Keyword → Bool
  | .INCLUDE | .EXCLUDE => false
  | .relation _ | .ID | .IN | .BBOX | .DWITHIN | .BEYOND | .RELATE => !called
  | _ => true

/-- Whether a predicate that starts with a token is a test of an operand that starts with it. -/
def Token.LeadsTest (token : Token) (called : Bool) : Prop :=
  token.isWord "NOT" = false ∧ Grammar.closingSign? .ecql token = none ∧
    ∀ keyword ∈ token.keyword?, keyword.leadsTest called = true

/-! ### Trees of statements -/

def Coordinate.IsFinite (p : Coordinate) : Prop := p.x.isFinite = true ∧ p.y.isFinite = true

def LineString.IsFinite (line : LineString) : Prop := ∀ p ∈ line.points, p.IsFinite

/-- Whether all ordinates of a polygon are finite and its rings are closed. -/
def Polygon.Compiled (region : Polygon) : Prop :=
  ∀ ring ∈ region.shell :: region.holes, ring.IsFinite ∧ ring.ringFault? = none

/-- Geometries as statements write them. -/
inductive Geometry.Compiled : Geometry → Prop where
  | point {p : Coordinate} (finite : p.IsFinite) : Compiled (.point p)
  | lineString {line : LineString} (finite : line.IsFinite) : Compiled (.lineString line)
  | polygon {region : Polygon} (compiled : region.Compiled) : Compiled (.polygon region)
  | multiPoint {points : List Coordinate} (nonempty : points ≠ []) (finite : ∀ p ∈ points, p.IsFinite) :
    Compiled (.multiPoint points)
  | multiLineString {lines : List LineString} (nonempty : lines ≠ []) (finite : ∀ line ∈ lines, line.IsFinite) :
    Compiled (.multiLineString lines)
  | multiPolygon {regions : List Polygon} (nonempty : regions ≠ []) (compiled : ∀ r ∈ regions, r.Compiled) :
    Compiled (.multiPolygon regions)
  | collection {members : List Geometry} (nonempty : members ≠ []) (compiled : ∀ m ∈ members, Compiled m) :
    Compiled (.collection members)

/-- Whether a reference system is the one that its number stands for. -/
def Crs.IsKnown (resolver : CrsResolver) (crs : Crs) : Prop := 0 < crs.srid.toInt ∧ resolver crs.srid = .ok crs

def Literal.Compiled (resolver : CrsResolver) : Literal → Prop
  | .number v => v.IsLiteral
  | .string _ | .boolean _ => True
  | .geometry g => g.geometry.Compiled ∧ ∀ crs ∈ g.crs, crs.IsKnown resolver

/-- Expressions as statements write them, of literals of some sort.  A `leading` one stands at the start of a test, or is
the function that stands for a relation. -/
inductive Expression.Written (ofLiteral : Literal → Prop) : Bool → Expression → Prop where
  | property {leading : Bool} {path : PropertyPath} {first : String} (words : path.StartsWith first)
    (free : (Token.word first none).truth? = none) (leads : leading = true → (Token.word first none).LeadsTest false) :
    Written ofLiteral leading (.property path)
  | literal {leading : Bool} {value : Literal} (compiled : ofLiteral value) : Written ofLiteral leading (.literal value)
  | function {leading : Bool} {name : String} {args : List Expression} (word : IsWord name)
    (free : ∀ keyword ∈ Keyword.ofText? name, keyword.isCallable = true)
    (leads : leading = true → name = "relate" ∨ (Token.word name none).LeadsTest true)
    (hargs : ∀ arg ∈ args, Written ofLiteral false arg) : Written ofLiteral leading (.function name args)
  | arithmetic {leading : Bool} {op : ArithmeticOp} {left right : Expression} (hleft : Written ofLiteral false left)
    (hright : Written ofLiteral false right) : Written ofLiteral leading (.arithmetic op left right)

variable (resolver : CrsResolver)

abbrev Expression.Compiled : Bool → Expression → Prop := Expression.Written (Literal.Compiled resolver)

/-- Predicates as statements write them. -/
inductive Predicate.Compiled : Predicate → Prop where
  | includeAll : Compiled .includeAll
  | excludeAll : Compiled .excludeAll
  | and {children : List Predicate} (several : 2 ≤ children.length) (compiled : ∀ p ∈ children, Compiled p)
    (flat : ∀ p ∈ children, p.conjuncts = [p]) : Compiled (.and children)
  | or {children : List Predicate} (several : 2 ≤ children.length) (compiled : ∀ p ∈ children, Compiled p)
    (flat : ∀ p ∈ children, p.disjuncts = [p]) : Compiled (.or children)
  | not {child : Predicate} (compiled : Compiled child) : Compiled (.not child)
  | comparison {op : ComparisonOp} {left right : Expression} (hleft : left.Compiled resolver true)
    (hright : right.Compiled resolver false) : Compiled (.comparison op left right)
  | spatial {op : SpatialOp} {left right : Expression}
    (operands : op ≠ .bbox → left.Compiled resolver false ∧ right.Compiled resolver false) :
    Compiled (.spatial op left right)
  | distance {op : DistanceOp} {left right : Expression} {d : Float} {units : DistanceUnits}
    (hleft : left.Compiled resolver false) (hright : right.Compiled resolver false) (finite : d.isFinite = true) :
    Compiled (.distance op left right d units)
  | featureIds {id : String} {ids : List String} : Compiled (.featureIds (.ofList (id :: ids)))
  | isNull {value : Expression} (hvalue : value.Compiled resolver true) : Compiled (.isNull value)
  | like {value : Expression} {pattern : String} {ignoringCase : Bool} (hvalue : value.Compiled resolver true) :
    Compiled (.like value pattern ignoringCase)
  | between {value lower upper : Expression} (hvalue : value.Compiled resolver true)
    (hlower : lower.Compiled resolver false) (hupper : upper.Compiled resolver false) :
    Compiled (.between value lower upper)

end GeoFilter
