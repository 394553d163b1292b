import GeoFilter.Assembly.Geometry
import GeoFilter.Assembly.Reference
import GeoFilter.Dialect
import GeoFilter.Text.Letter

/-!
# Assembly steps

`step` does the work of one reduction on the results stack: it takes the results that the production is
made of and puts the result of the production in their place.  Both dialects share the steps; the
extended one takes any expression as the second operand of a spatial relation, reads reference systems
and envelopes from the tokens alone, and remarks on words for operators.
-/

namespace GeoFilter

/-- What trees are made with: a factory for their nodes and a resolver for reference systems. -/
structure Toolkit where
  factory : TreeFactory
  resolver : CrsResolver

namespace Assembly

def envelopeComponents : Nat := 4

def pushPredicate (production : Production) (p : Predicate) (token : SourceToken) : Assembly Unit :=
  push production (.predicate p) token

def pushExpression (production : Production) (e : Expression) (token : SourceToken) : Assembly Unit :=
  push production (.expression e) token

/-- The negation of a predicate if the production is a negated one. -/
def negatedIf (factory : TreeFactory) (negated : Bool) (p : Predicate) : Assembly Predicate :=
  if negated then made .not (factory.not p) else pure p

/-- Changes the sign of the number on top, which keeps its tag and its kind. -/
def negate (token : SourceToken) : Assembly Unit := do
  let (n, e) ← popHolding "number" Node.number?
  let number ← orFind n.negate? (.invalidNumber ⟨"-" ++ e.token.text, token.place⟩)
  let node := match e.node with
    | .number _ => .number number
    | _ => .literal (.number number)
  push e.production node token

/-- A function of the arguments on top and of the name below them. -/
def function (factory : TreeFactory) (token : SourceToken) : Assembly Unit := do
  let args ← drainRun (· == .functionArgument) Node.expression?
  let name ← popRaw .functionName
  let e ← made .function (factory.function name args)
  pushExpression .function e token

def connect (production : Production) (maker : TreeFactory.Maker)
    (make : Predicate → Predicate → Predicate) (token : SourceToken) : Assembly Unit := do
  let right ← popPredicate
  let left ← popPredicate
  let p ← made maker (make left right)
  pushPredicate production p token

def featureIds (factory : TreeFactory) (token : SourceToken) : Assembly Unit := do
  let ids ← nonEmpty .featureIdPredicate (← drainRun (· == .featureId) Node.raw?)
  let p ← made .featureIds (factory.featureIds ids)
  pushPredicate .featureIdPredicate p token

def equalities (factory : TreeFactory) (operand : Expression) :
    List Expression → Assembly (List Predicate)
  | [] => pure []
  | candidate :: candidates => do
    let p ← made .compare (factory.compare .eq operand candidate)
    let ps ← equalities factory operand candidates
    return p :: ps

/-- The disjunction of the equalities of an operand with the candidates on top of it. -/
def inList (factory : TreeFactory) (production : Production) (negated : Bool)
    (token : SourceToken) : Assembly Unit := do
  let candidates ← nonEmpty production (← drainRun (· == .inListMember) Node.expression?)
  let operand ← popExpression
  let ps ← equalities factory operand candidates
  let disjunction ← made .orAll (factory.orAll ps)
  let p ← negatedIf factory negated disjunction
  pushPredicate production p token

def isNull (factory : TreeFactory) (production : Production) (negated : Bool)
    (token : SourceToken) : Assembly Unit := do
  let operand ← popExpression
  let p ← made .isNull (factory.isNull operand)
  let p ← negatedIf factory negated p
  pushPredicate production p token

def like (factory : TreeFactory) (production : Production) (ignoringCase negated : Bool)
    (token : SourceToken) : Assembly Unit := do
  let (pattern, _) ← popHolding "pattern string" Node.string?
  let operand ← popExpression
  let p ← made .like (factory.like operand pattern ignoringCase)
  let p ← negatedIf factory negated p
  pushPredicate production p token

def between (factory : TreeFactory) (production : Production) (negated : Bool)
    (token : SourceToken) : Assembly Unit := do
  let upper ← popExpression
  let lower ← popExpression
  let operand ← popExpression
  let p ← made .between (factory.between operand lower upper)
  let p ← negatedIf factory negated p
  pushPredicate production p token

def spatial (factory : TreeFactory) (op : SpatialOp) (right : Expression) (token : SourceToken) :
    Assembly Unit := do
  let left ← popExpression
  let p ← made .spatial (factory.spatial op left right)
  pushPredicate (.spatial op) p token

/-- Whether the geometry of an operand meets the rectangle of the four bounds on top of it. -/
def bbox (kit : Toolkit) (token : SourceToken) (code : Option SourceToken) : Assembly Unit := do
  let maxY ← popFloat
  let maxX ← popFloat
  let minY ← popFloat
  let minX ← popFloat
  let rectangle := Polygon.rectangle (Envelope.between minX maxX minY maxY)
  let literal ← attachCode kit.resolver ⟨.polygon rectangle, none⟩ code
  let left ← popExpression
  let right ← made .literal (kit.factory.literal (.geometry literal))
  let p ← made .spatial (kit.factory.spatial .bbox left right)
  pushPredicate .bbox p token

/-- The distance on top between two operands, in the units that the tokens name. -/
def distance (factory : TreeFactory) (op : DistanceOp) (token : SourceToken) :
    List SourceToken → Assembly Unit
  | [] => failDefect (.missingToken (.distance op))
  | word :: words => do
    let text := " ".intercalate ((word :: words).map SourceToken.text)
    let units ← orFind (DistanceUnits.ofText? text) ⟨.invalidUnits text, word, none⟩
    let d ← popFloat
    let right ← popExpression
    let left ← popExpression
    let p ← made .distance (factory.distance op left right d units)
    pushPredicate (.distance op) p token

/-- A call of a function of two operands and more arguments, compared with the value true. -/
def relateWith (factory : TreeFactory) (production : Production) (name : String)
    (more : Expression → Expression → Assembly (List Expression)) (token : SourceToken) :
    Assembly Unit := do
  let right ← popExpression
  let left ← popExpression
  let args ← more left right
  let call ← made .function (factory.function name args)
  let truth ← made .literal (factory.literal (.boolean true))
  let p ← made .compare (factory.compare .eq call truth)
  pushPredicate production p token

def relate (factory : TreeFactory) (token : SourceToken) : Assembly Unit :=
  relateWith factory .relate "relate" (fun left right => pure [left, right]) token

def relatePattern (factory : TreeFactory) (token : SourceToken) : Assembly Unit := do
  let pattern ← popRaw .de9imPattern
  relateWith factory .relatePattern "relatePattern" (fun left right => do
    let e ← made .literal (factory.literal (.string pattern))
    return [left, right, e]) token

/-- Whether a text is a pattern of the nine-intersection model: nine characters, each one of T, F, an
asterisk and the dimensions 0 to 2. -/
def isDe9im (pattern : String) : Bool :=
  let cs := pattern.toList
  cs.length == 9 && cs.all fun c => ['T', 'F', '*', '0', '1', '2'].contains c.toUpper

def de9imPattern : Assembly Unit := do
  let (pattern, e) ← popHolding "pattern string" Node.string?
  if isDe9im pattern then push .de9imPattern (.raw pattern) e.token
  else failWith ⟨.invalidDe9im pattern, e.token, none⟩

def number (production : Production) (token : SourceToken) : Assembly Unit := do
  let n ← orFind (Number.readIntegral? token.text) (.invalidNumber token)
  push production (.number n) token

def numberLiteral (production : Production) (n? : Option Number) (token : SourceToken) :
    Assembly Unit := do
  let n ← orFind n? (.invalidNumber token)
  push production (.literal (.number n)) token

/-- The work of a reduction of the base dialect, which starts at the given token and has more. -/
def baseStep (kit : Toolkit) (production : Production) (token : SourceToken)
    (more : List SourceToken) : Assembly Unit :=
  let factory := kit.factory
  match production with
  | .propertyName => do
    let e ← made .property (factory.property ((token :: more).map SourceToken.text))
    pushExpression production e token
  | .integerLiteral => numberLiteral production (Number.readIntegral? token.text) token
  | .floatingLiteral => numberLiteral production (Number.readFloating? token.text) token
  | .stringLiteral => push production (.literal (.string token.text)) token
  | .booleanLiteral =>
    push production (.literal (.boolean (Text.sameIgnoringAsciiCase token.text "true"))) token
  | .negativeNumber => negate token
  | .functionName => push production (.raw token.text) token
  | .functionArgument => ofStack (ResultsStack.retag production)
  | .inListMember => ofStack (ResultsStack.retag production)
  | .function => function factory token
  | .arithmetic op => do
    let right ← popExpression
    let left ← popExpression
    let e ← made .arithmetic (factory.arithmetic op left right)
    pushExpression production e token
  | .comparison op => do
    let right ← popExpression
    let left ← popExpression
    let p ← made .compare (factory.compare op left right)
    pushPredicate production p token
  | .and => connect production .and factory.and token
  | .or => connect production .or factory.or token
  | .not => do
    let child ← popPredicate
    let p ← made .not (factory.not child)
    pushPredicate production p token
  | .includeAll => do
    let p ← made .includeAll factory.includeAll
    pushPredicate production p token
  | .excludeAll => do
    let p ← made .excludeAll factory.excludeAll
    pushPredicate production p token
  | .featureId => push production (.raw token.text) token
  | .featureIdPredicate => featureIds factory token
  | .inPredicate => inList factory production false token
  | .notInPredicate => inList factory production true token
  | .isNull => isNull factory production false token
  | .isNotNull => isNull factory production true token
  | .like => like factory production false false token
  | .notLike => like factory production false true token
  | .ilike => like factory production true false token
  | .notILike => like factory production true true token
  | .between => between factory production false token
  | .notBetween => between factory production true token
  | .spatial op => do
    let geometry ← popGeometryLiteral
    let right ← made .literal (factory.literal (.geometry geometry))
    spatial factory op right token
  | .bbox => bbox kit token more.head?
  | .distance op => distance factory op token more
  | .relate => relate factory token
  | .relatePattern => relatePattern factory token
  | .de9imPattern => de9imPattern
  | .ordinate => number production token
  | .srid => number production token
  | .envelopeComponent => number production token
  | .coordinate => coordinate token
  | .pointText role => pointText role token
  | .lineStringText role => lineStringText role token
  | .polygonText role => polygonText role token
  | .multiPointText role => multiPointText role token
  | .multiLineStringText role => multiLineStringText role token
  | .multiPolygonText role => multiPolygonText role token
  | .collectionStart => collectionStart token
  | .collectionText role => collectionText role token
  | .geometryLiteral => geometryLiteral token
  | .sridGeometryLiteral => sridGeometryLiteral kit.resolver token
  | .envelope => do
    ofStack (ResultsStack.discard .envelopeComponent envelopeComponents)
    envelope kit.resolver token more
  | .geometryLiteralWithSrid => failDefect (.unsupportedProduction production)

def remarkOnWord (op : ComparisonOp) (token : SourceToken) : Assembly Unit :=
  if token.text.toList.all Text.isLetter then note (.deprecatedOperator token op) else pure ()

def extendedStep (kit : Toolkit) (production : Production) (token : SourceToken)
    (more : List SourceToken) : Assembly Unit :=
  match production with
  | .spatial op => do
    let right ← popExpression
    spatial kit.factory op right token
  | .envelope => envelope kit.resolver token more
  | .geometryLiteralWithSrid => geometryLiteralWithSrid kit.resolver token more
  | .comparison op => do
    remarkOnWord op token
    baseStep kit production token more
  | _ => baseStep kit production token more

/-- Whether a dialect has a production at all.  The extended one has its own ways for reference systems
and envelopes. -/
def hasProduction : Dialect → Production → Bool
  | .ecql, .envelopeComponent => false
  | .ecql, .srid => false
  | .ecql, .sridGeometryLiteral => false
  | _, _ => true

def step (dialect : Dialect) (kit : Toolkit) (r : Reduction) : Assembly Unit :=
  if hasProduction dialect r.production then
    match r.tokens with
    | [] => failDefect (.missingToken r.production)
    | token :: more =>
      match dialect with
      | .cql => baseStep kit r.production token more
      | .ecql => extendedStep kit r.production token more
  else failDefect (.unsupportedProduction r.production)

def steps (dialect : Dialect) (kit : Toolkit) : List Reduction → Assembly Unit
  | [] => pure ()
  | r :: rs => do
    step dialect kit r
    steps dialect kit rs

def finish : Assembly Entry := fun s =>
  match s.root with
  | .ok e => ⟨.ok e, [], []⟩
  | .error defect => ⟨.error (.defect defect), s, []⟩

end Assembly

end GeoFilter
