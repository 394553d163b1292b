import GeoFilter.Evaluation.Wildcard
import GeoFilter.Tree.Predicate

/-!
# Evaluation

The value of an expression and the truth of a predicate on a feature.  A missing attribute makes an
expression have no value, and a predicate that needs the value false.  Function calls, spatial
relations other than BBOX and distances are not evaluated: they are errors.  So is a pattern that the library of regular
expressions refuses.
-/

namespace GeoFilter

/-- Something a filter can be tested on: an identifier and the values of attributes. -/
structure Feature where
  id : String
  property : PropertyPath → Option Literal

/-- The feature with the given named values; a path is looked up by its text. -/
def Feature.ofProperties (id : String) (properties : List (String × Literal)) : Feature where
  id
  property path := properties.lookup path.toText

/-- Why an evaluation fails. -/
inductive EvaluationError where
  /-- Something that is not evaluated. -/
  | unsupported (what : String)
  /-- A pattern whose regular expression is refused. -/
  | invalidPattern (pattern : String)
  deriving DecidableEq, Repr

def EvaluationError.message : EvaluationError → String
  | .unsupported what => s!"evaluation of {what} is not supported"
  | .invalidPattern pattern => s!"pattern '{pattern}' could not be compiled"

namespace ArithmeticOp

def onInts? : ArithmeticOp → Int → Int → Option Int
  | add, m, n => some (m + n)
  | sub, m, n => some (m - n)
  | mul, m, n => some (m * n)
  | div, _, _ => none

def onFloats : ArithmeticOp → Float → Float → Float
  | add, x, y => x + y
  | sub, x, y => x - y
  | mul, x, y => x * y
  | div, x, y => x / y

/-- The result on two integers but for division: an integer, if it fits in 64 bits.  Everything else is
calculated in double precision. -/
def apply (op : ArithmeticOp) (a b : Number) : Option Number :=
  match (do op.onInts? (← a.toInt?) (← b.toInt?)) with
  | some n => (Decimal.int64? n).map .long
  | none => some (.double (op.onFloats a.toFloat b.toFloat))

end ArithmeticOp

def Expression.evaluate (feature : Feature) : Expression → Except EvaluationError (Option Literal)
  | .property path => .ok (feature.property path)
  | .literal value => .ok (some value)
  | .function name _ => .error (.unsupported ("function " ++ name))
  | .arithmetic op left right => do
    let a ← left.evaluate feature
    let b ← right.evaluate feature
    match a.bind Literal.toNumber?, b.bind Literal.toNumber? with
    | some m, some n => return (op.apply m n).map .number
    | _, _ => return none

def Literal.envelopesMeet : Literal → Literal → Bool
  | .geometry a, .geometry b =>
    match a.geometry.envelope, b.geometry.envelope with
    | some e, some e' => e.intersects e'
    | _, _ => false
  | _, _ => false

/-- The text a pattern is matched against: of a string itself, of another value what is shown. -/
def Literal.matchedText : Literal → String
  | .string s => s
  | value => value.toText

/-- What a pattern tells of a text, or the error if its regular expression is refused. -/
def Wildcard.compile [RegexLibrary] (pattern : String) (ignoringCase : Bool) :
    Except EvaluationError (String → Bool) :=
  match RegexLibrary.compile? (translate pattern ignoringCase) with
  | some matcher => .ok matcher
  | none => .error (.invalidPattern pattern)

namespace Predicate

/-- Compares two values; values without an order are only unequal. -/
def comparisonHolds (op : ComparisonOp) (a b : Literal) : Bool :=
  match a.compare? b with
  | some o => op.holds o
  | none => op == .notEq

def betweenHolds (value lower upper : Literal) : Bool :=
  (match value.compare? lower with
    | some o => o != .lt
    | none => false)
  && (match value.compare? upper with
    | some o => o != .gt
    | none => false)

section

variable [RegexLibrary]

mutual

def evaluate (feature : Feature) : Predicate → Except EvaluationError Bool
  | .includeAll => .ok true
  | .excludeAll => .ok false
  | .and children => evaluateAll feature children
  | .or children => evaluateAny feature children
  | .not child => do return !(← evaluate feature child)
  | .comparison op left right => do
    let a ← left.evaluate feature
    let b ← right.evaluate feature
    match a, b with
    | some a, some b => return comparisonHolds op a b
    | _, _ => return false
  | .between value lower upper => do
    let some v ← value.evaluate feature | return false
    let some l ← lower.evaluate feature | return false
    let some u ← upper.evaluate feature | return false
    return betweenHolds v l u
  | .isNull value => do return (← value.evaluate feature).isNone
  | .like value pattern ignoringCase => do
    let some v ← value.evaluate feature | return false
    return (← Wildcard.compile pattern ignoringCase) v.matchedText
  | .featureIds s => .ok (s.contains feature.id)
  | .spatial .bbox left right => do
    let a ← left.evaluate feature
    let b ← right.evaluate feature
    match a, b with
    | some a, some b => return a.envelopesMeet b
    | _, _ => return false
  | .spatial op _ _ => .error (.unsupported op.symbol)
  | .distance op _ _ _ _ => .error (.unsupported op.symbol)

/-- Whether all predicates hold; the first that does not ends the evaluation. -/
def evaluateAll (feature : Feature) : List Predicate → Except EvaluationError Bool
  | [] => .ok true
  | p :: ps => do
    if ← evaluate feature p then evaluateAll feature ps else return false

/-- Whether one of the predicates holds; the first that does ends the evaluation. -/
def evaluateAny (feature : Feature) : List Predicate → Except EvaluationError Bool
  | [] => .ok false
  | p :: ps => do
    if ← evaluate feature p then return true else evaluateAny feature ps

end

end

end Predicate

end GeoFilter
