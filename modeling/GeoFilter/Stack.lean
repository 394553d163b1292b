import GeoFilter.Production

/-!
# The results stack

Intermediate values wait on a stack, each tagged with the production that built it and the token it
started at, until the production that contains them takes them off.  Every operation answers a value or
a `StackDefect` and the stack it leaves, also when it fails: an entry of the wrong kind is gone once it
was looked at.
-/

namespace GeoFilter

/-- An intermediate value. -/
inductive Node where
  | predicate (p : Predicate)
  | expression (e : Expression)
  | literal (l : Literal)
  | geometry (g : Geometry)
  | coordinate (c : Coordinate)
  | number (n : Number)
  | raw (text : String)

namespace Node

def predicate? : Node → Option Predicate
  | predicate p => some p
  | _ => none

def expression? : Node → Option Expression
  | expression e => some e
  | literal l => some (.literal l)
  | _ => none

def literal? : Node → Option Literal
  | literal l => some l
  | _ => none

def geometry? : Node → Option Geometry
  | geometry g => some g
  | _ => none

def coordinate? : Node → Option Coordinate
  | coordinate c => some c
  | _ => none

def number? : Node → Option Number
  | number n => some n
  | literal (.number n) => some n
  | _ => none

def raw? : Node → Option String
  | raw text => some text
  | _ => none

def string? : Node → Option String
  | literal (.string s) => some s
  | _ => none

def geometryLiteral? : Node → Option GeometryLiteral
  | literal (.geometry g) => some g
  | _ => none

end Node

/-- An intermediate value with its tag and its token. -/
structure Entry where
  production : Production
  node : Node
  token : SourceToken

/-- What goes wrong when the results on the stack are not those that a production is made of. -/
inductive StackDefect where
  /-- Nothing is left. -/
  | empty (expected : String)
  /-- An entry of another kind or tag. -/
  | mismatch (expected : String) (found : Production)
  /-- More than one result at the end. -/
  | unbalanced (remaining : Nat)
  /-- A production of the other dialect. -/
  | unsupportedProduction (production : Production)
  /-- A production without the tokens it needs. -/
  | missingToken (production : Production)
  /-- A list without members. -/
  | emptyRun (production : Production)
  deriving DecidableEq, Repr

def StackDefect.message : StackDefect → String
  | .empty expected => s!"expected {expected} on results stack but it is empty"
  | .mismatch expected found => s!"expected {expected} on results stack but found {found.label}"
  | .unbalanced remaining => s!"expected exactly one result at the end but {remaining} remained"
  | .unsupportedProduction production => s!"{production.label} is not a production of this dialect"
  | .missingToken production => s!"{production.label} was reduced without a token"
  | .emptyRun production => s!"{production.label} was reduced without any member"

namespace Entry

def toPredicate (e : Entry) : Except StackDefect Predicate :=
  match e.node.predicate? with
  | some p => .ok p
  | none => .error (.mismatch "predicate" e.production)

def toExpression (e : Entry) : Except StackDefect Expression :=
  match e.node.expression? with
  | some x => .ok x
  | none => .error (.mismatch "expression" e.production)

end Entry

abbrev ResultsStack := List Entry

namespace ResultsStack

def push (s : ResultsStack) (production : Production) (node : Node) (token : SourceToken) :
    ResultsStack :=
  ⟨production, node, token⟩ :: s

def pop : ResultsStack → Except StackDefect Entry × ResultsStack
  | [] => (.error (.empty "any result"), [])
  | e :: s => (.ok e, s)

/-- Takes the top entry, which has to hold a value of the wanted kind. -/
def popAs (expected : String) (extract : Node → Option α) :
    ResultsStack → Except StackDefect α × ResultsStack
  | [] => (.error (.empty expected), [])
  | e :: s =>
    match extract e.node with
    | some a => (.ok a, s)
    | none => (.error (.mismatch expected e.production), s)

def popPredicate : ResultsStack → Except StackDefect Predicate × ResultsStack :=
  popAs "predicate" Node.predicate?

def popExpression : ResultsStack → Except StackDefect Expression × ResultsStack :=
  popAs "expression" Node.expression?

def popLiteral : ResultsStack → Except StackDefect Literal × ResultsStack :=
  popAs "literal" Node.literal?

def popGeometry : ResultsStack → Except StackDefect Geometry × ResultsStack :=
  popAs "geometry" Node.geometry?

def popCoordinate : ResultsStack → Except StackDefect Coordinate × ResultsStack :=
  popAs "coordinate" Node.coordinate?

def popNumber : ResultsStack → Except StackDefect Number × ResultsStack :=
  popAs "number" Node.number?

/-- Takes the top entry, which has to be a raw token with the given tag. -/
def popRaw (tag : Production) : ResultsStack → Except StackDefect String × ResultsStack
  | [] => (.error (.empty "any result"), [])
  | e :: s =>
    match e.node.raw? with
    | some text =>
      if e.production = tag then (.ok text, s)
      else (.error (.mismatch "raw token" e.production), s)
    | none => (.error (.mismatch "raw token" e.production), s)

/-- Takes entries while their tags match, in front of the values already taken.  The values come in the
order in which they were pushed; the first entry without a value of the wanted kind ends it. -/
def drainOnto (isMember : Production → Bool) (extract : Node → Option α) :
    List α → ResultsStack → Except StackDefect (List α) × ResultsStack
  | taken, [] => (.ok taken, [])
  | taken, e :: s =>
    if isMember e.production then
      match extract e.node with
      | some a => drainOnto isMember extract (a :: taken) s
      | none => (.error (.mismatch "run member" e.production), s)
    else (.ok taken, e :: s)

def drainRun (isMember : Production → Bool) (extract : Node → Option α) (s : ResultsStack) :
    Except StackDefect (List α) × ResultsStack :=
  drainOnto isMember extract [] s

def discard (tag : Production) : Nat → ResultsStack → Except StackDefect Unit × ResultsStack
  | 0, s => (.ok (), s)
  | _ + 1, [] => (.error (.empty "any result"), [])
  | n + 1, e :: s =>
    if e.production = tag then discard tag n s
    else (.error (.mismatch "discardable entry" e.production), s)

def retag (production : Production) : ResultsStack → Except StackDefect Unit × ResultsStack
  | [] => (.error (.empty "result to retag"), [])
  | e :: s => (.ok (), { e with production } :: s)

def root : ResultsStack → Except StackDefect Entry
  | [] => .error (.empty "compiled result")
  | [e] => .ok e
  | s => .error (.unbalanced s.length)

end ResultsStack

end GeoFilter
