import GeoFilter.Grammar.Predicate
import GeoFilter.Proofs.Translation.Expression

/-!
# Filters, translated

The predicate that a filter writes.
-/

namespace GeoFilter

/-- The negation of a predicate, if it is to be negated. -/
def negatedWhen (factory : TreeFactory) (negated : Bool) (p : Predicate) : Predicate :=
  if negated then factory.not p else p

/-- The relation of an operand to the rectangle of four bounds, with the reference system of a code if one
is given. -/
def boxed (kit : Toolkit) (left : Expression) (minX minY maxX maxY : Number)
    (code : Option SourceToken) : Except Finding Predicate :=
  match qualifiedByCode kit.resolver (rectangle minX.toFloat maxX.toFloat minY.toFloat maxY.toFloat) code with
  | .ok g => .ok (kit.factory.spatial .bbox left (kit.factory.literal (.geometry g)))
  | .error finding => .error finding

/-- The condition on the distance of two operands in the units that some words name; the first word is
where they stand. -/
def distant (factory : TreeFactory) (op : DistanceOp) (left right : Expression) (d : Number)
    (word : SourceToken) (words : List SourceToken) : Except Finding Predicate :=
  let text := " ".intercalate ((word :: words).map SourceToken.text)
  match DistanceUnits.ofText? text with
  | some units => .ok (factory.distance op left right d.toFloat units)
  | none => .error ⟨.invalidUnits text, word, none⟩

/-- A pattern of the nine-intersection model, or the finding that a text is none. -/
def de9imOf (pattern : SourceToken) : Except Finding Unit :=
  if Assembly.isDe9im pattern.text then .ok ()
  else .error ⟨.invalidDe9im pattern.text, pattern, none⟩

/-- A function of two operands and more arguments, compared with the value true. -/
def related (factory : TreeFactory) (name : String) (args : List Expression) : Predicate :=
  factory.compare .eq (factory.function name args) (factory.literal (.boolean true))

/-- The disjunction of the equalities of an operand with some candidates. -/
def anyOf (factory : TreeFactory) (operand : Expression) (candidates : List Expression) : Predicate :=
  factory.orAll (candidates.map (factory.compare .eq operand))

namespace Translation

open Phrase (here accept next require)

variable (u : Setting)

def operand (levels : Nat) : Translation Expression :=
  match u.dialect with
  | .cql => propertyName u
  | .ecql => expression u levels

def geometryOperand (levels : Nat) : Translation Expression :=
  match u.dialect with
  | .ecql => expression u levels
  | .cql => do
    match (← read Phrase.peek).bind Token.keyword? with
    | some .SRID => ofGeometry (sridLiteral u levels)
    | some .ENVELOPE => ofGeometry (envelope u)
    | some (.shape _) => plainGeometry u levels
    | _ => read (Phrase.unexpected "a geometry literal")

def featureId : Translation String := do
  let id ← read (Phrase.expectIf Grammar.isFeatureId "a feature id")
  complete u .featureId [id] (.ok id.text)

def featureIds : Translation Predicate := do
  let keyword ← read (next "ID")
  let (id, ids) ← parenthesized (commaSeparated (featureId u))
  complete u .featureIdPredicate [keyword] (.ok (u.kit.factory.featureIds (id :: ids)))

/-- The second operand of a spatial relation, as the relation takes it: the base dialect makes a literal of
its geometry once more. -/
def spatialRight (right : Expression) : Expression :=
  match u.dialect, right with
  | .cql, .literal l => u.kit.factory.literal l
  | _, right => right

variable {u} in
theorem spatialRight_plain (hu : u.kit.factory = .plain) (right : Expression) : spatialRight u right = right := by
  unfold spatialRight
  rw [hu]
  split <;> rfl

def spatial (levels : Nat) (op : SpatialOp) : Translation Predicate := do
  let keyword ← read (next "a spatial operator")
  read (require .leftParen)
  let left ← operand u levels
  read (require .comma)
  let right ← geometryOperand u levels
  read (require .rightParen)
  complete u (.spatial op) [keyword] (.ok (u.kit.factory.spatial op left (spatialRight u right)))

def commaBound : Translation Number := do
  read (require .comma)
  signedLiteral u

def bbox (levels : Nat) : Translation Predicate := do
  let keyword ← read (next "BBOX")
  read (require .leftParen)
  let left ← operand u levels
  let minX ← commaBound u
  let minY ← commaBound u
  let maxX ← commaBound u
  let maxY ← commaBound u
  let code ← read Grammar.referenceSystem?
  read (require .rightParen)
  complete u .bbox (keyword :: code) (boxed u.kit left minX minY maxX maxY code.head?)

def distance (levels : Nat) (op : DistanceOp) : Translation Predicate := do
  let keyword ← read (next "a distance operator")
  read (require .leftParen)
  let left ← operand u levels
  read (require .comma)
  let right ← geometryOperand u levels
  read (require .comma)
  let d ← signedLiteral u
  read (require .comma)
  let units ← read Grammar.unitWords
  read (require .rightParen)
  complete u (.distance op) (keyword :: units)
    (distant u.kit.factory op left right d (units.headD keyword) units.tail)

/-- A relation of two operands, in general or by a pattern. -/
def relate (levels : Nat) : Translation Predicate := do
  let keyword ← read (next "RELATE")
  read (require .leftParen)
  let left ← operand u levels
  read (require .comma)
  let right ← geometryOperand u levels
  match ← read (accept .comma) with
  | some _ =>
    let pattern ← read Grammar.de9imPattern
    complete u .stringLiteral [pattern] (.ok ())
    complete u .de9imPattern [pattern] (de9imOf pattern)
    read (require .rightParen)
    complete u .relatePattern [keyword] (.ok (related u.kit.factory "relatePattern"
      [left, right, u.kit.factory.literal (.string pattern.text)]))
  | none =>
    read (require .rightParen)
    complete u .relate [keyword] (.ok (related u.kit.factory "relate" [left, right]))

def listMember (levels : Nat) : Translation Expression := do
  let token ← read (here "an expression")
  let x ← expression u levels
  complete u .inListMember [token] (.ok x)

/-- The candidates that an operand may equal, or may not. -/
def inList (levels : Nat) (production : Production) (negated : Bool) (left : Expression)
    (token : SourceToken) : Translation Predicate := do
  let (x, xs) ← parenthesized (commaSeparated (listMember u levels))
  complete u production [token]
    (.ok (negatedWhen u.kit.factory negated (anyOf u.kit.factory left (x :: xs))))

/-- The pattern that an operand has to match, or may not. -/
def like (production : Production) (ignoringCase negated : Bool) (left : Expression)
    (token : SourceToken) : Translation Predicate := do
  let pattern ← read (Phrase.expectIf Grammar.isQuotedText "a quoted pattern")
  complete u .stringLiteral [pattern] (.ok ())
  complete u production [token]
    (.ok (negatedWhen u.kit.factory negated (u.kit.factory.like left pattern.text ignoringCase)))

/-- The two values that an operand has to lie between, or may not. -/
def between (levels : Nat) (production : Production) (negated : Bool) (left : Expression)
    (token : SourceToken) : Translation Predicate := do
  let lower ← expression u levels
  let _ ← read (Phrase.expectWord "AND")
  let upper ← expression u levels
  complete u production [token]
    (.ok (negatedWhen u.kit.factory negated (u.kit.factory.between left lower upper)))

def isNull (left : Expression) (token : SourceToken) : Translation Predicate := do
  let not? ← read (Phrase.acceptWord "NOT")
  let _ ← read (Phrase.expectWord "NULL")
  complete u (if not?.isSome then .isNotNull else .isNull) [token]
    (.ok (negatedWhen u.kit.factory not?.isSome (u.kit.factory.isNull left)))

def negatedTest (levels : Nat) (left : Expression) (token : SourceToken) :
    Translation Predicate := do
  let expected := "IN, LIKE, ILIKE or BETWEEN"
  match (← read Phrase.peek).bind Token.keyword? with
  | some .IN =>
    let _ ← read (next expected)
    inList u levels .notInPredicate true left token
  | some .LIKE =>
    let _ ← read (next expected)
    like u .notLike false true left token
  | some .ILIKE =>
    let _ ← read (next expected)
    like u .notILike true true left token
  | some .BETWEEN =>
    let _ ← read (next expected)
    between u levels .notBetween true left token
  | _ => read (Phrase.unexpected expected)

/-- What follows an operand if no operator of comparison does. -/
def keywordTest (levels : Nat) (left : Expression) (keyword? : Option Keyword) :
    Translation Predicate := do
  let expected := "a comparison operator"
  match keyword? with
  | some .NOT => negatedTest u levels left (← read (next expected))
  | some .IN => inList u levels .inPredicate false left (← read (next expected))
  | some .LIKE => like u .like false false left (← read (next expected))
  | some .ILIKE => like u .ilike true false left (← read (next expected))
  | some .BETWEEN => between u levels .between false left (← read (next expected))
  | some .IS => isNull u left (← read (next expected))
  | _ => read (Phrase.unexpected expected)

def testOf (levels : Nat) (left : Expression) : Translation Predicate := do
  match ← read Phrase.peek with
  | none => read (Phrase.unexpected "a comparison operator")
  | some token =>
    match Grammar.comparisonOperator? u.dialect token with
    | some op =>
      let operator ← read (next "a comparison operator")
      let right ← expression u levels
      complete u (.comparison op) [operator] (.ok (u.kit.factory.compare op left right))
    | none => keywordTest u levels left token.keyword?

def valueTest (levels : Nat) : Translation Predicate := do
  let left ← operand u levels
  testOf u levels left

/-- A predicate that starts with the given keyword, or with an operand. -/
def simplePredicate (levels : Nat) (keyword? : Option Keyword) (called : Bool) :
    Translation Predicate := do
  match keyword?, called with
  | some .INCLUDE, _ =>
    complete u .includeAll [← read (next "INCLUDE")] (.ok u.kit.factory.includeAll)
  | some .EXCLUDE, _ =>
    complete u .excludeAll [← read (next "EXCLUDE")] (.ok u.kit.factory.excludeAll)
  | some (.relation op), true => spatial u levels op
  | some .ID, true => featureIds u
  | some .IN, true =>
    match u.dialect with
    | .ecql => featureIds u
    | .cql => valueTest u levels
  | some .BBOX, true => bbox u levels
  | some .DWITHIN, true => distance u levels .dwithin
  | some .BEYOND, true => distance u levels .beyond
  | some .RELATE, true => relate u levels
  | _, _ => valueTest u levels

def primary (levels : Nat) (group? : Option (Translation Predicate)) : Translation Predicate := do
  match ← read Phrase.peek with
  | none => read (Phrase.unexpected "a predicate")
  | some token =>
    match Grammar.closingSign? u.dialect token with
    | some closing =>
      let opener ← read (next "a predicate")
      let p ← nested group? opener
      read (require closing)
      return p
    | none => simplePredicate u levels token.keyword? (← read Grammar.parenFollows)

/-- A predicate after a word, completed as the given production. -/
def nextPredicate (production : Production) (item : Translation Predicate) (token : SourceToken) :
    Translation Predicate := do
  let p ← item
  complete u production [token] (.ok p)

/-- Predicates with a word between them, combined from the left. -/
def joined (word : String) (production : Production) (combine : Predicate → Predicate → Predicate)
    (item : Translation Predicate) : Translation Predicate := do
  let p ← item
  let more ← repeatAfter (Phrase.acceptWord word) (nextPredicate u production item)
  return more.foldl combine p

def disjunctionOf (negation : Translation Predicate) : Translation Predicate :=
  joined u "OR" .or u.kit.factory.or (joined u "AND" .and u.kit.factory.and negation)

/-- A predicate with any number of NOT before it. -/
def negationWith (levels : Nat) (inner? : Option (Translation Predicate)) :
    Translation Predicate := do
  match ← read (Phrase.acceptWord "NOT") with
  | some token =>
    let p ← nested inner? token
    complete u .not [token] (.ok (u.kit.factory.not p))
  | none => primary u levels (inner?.map (disjunctionOf u))

/-- A negation with the given number of levels left for nesting. -/
def negation : Nat → Translation Predicate
  | 0 => negationWith u 0 none
  | levels + 1 => negationWith u (levels + 1) (some (negation levels))

/-- A filter with the given number of levels left for nesting. -/
def filter (levels : Nat) : Translation Predicate :=
  disjunctionOf u (negation u levels)

end Translation

end GeoFilter
