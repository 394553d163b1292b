import GeoFilter.Stack
import GeoFilter.Tree.Factory

/-!
# Assembly

Putting a tree together works on the results stack, can fail, and leaves notes on the way.  An
`Assembly` is such a piece of work: from a stack it answers an `Outcome`, which has the stack and the
notes also when the work failed.
-/

namespace GeoFilter

/-- Why a tree cannot be put together: something wrong with the statement, or results on the stack that
do not fit, which no statement leads to. -/
inductive AssemblyFault where
  | finding (finding : Finding)
  | defect (defect : StackDefect)
  deriving DecidableEq, Repr

/-- Something worth telling about an assembly that did not stop it. -/
inductive Note where
  /-- A maker of the tree factory was used. -/
  | used (maker : TreeFactory.Maker)
  /-- A word stands where a sign is preferred. -/
  | deprecatedOperator (token : SourceToken) (op : ComparisonOp)
  deriving DecidableEq, Repr

/-- What comes out of a piece of work on the stack. -/
structure Outcome (α : Type) where
  result : Except AssemblyFault α
  stack : ResultsStack
  notes : List Note

def Assembly (α : Type) : Type :=
  ResultsStack → Outcome α

namespace Assembly

def pure (a : α) : Assembly α := fun s => ⟨.ok a, s, []⟩

/-- One piece of work and then another, unless the first fails. -/
def bind (work : Assembly α) (next : α → Assembly β) : Assembly β := fun s =>
  match work s with
  | ⟨.ok a, s', notes⟩ =>
    let o := next a s'
    { o with notes := notes ++ o.notes }
  | ⟨.error fault, s', notes⟩ => ⟨.error fault, s', notes⟩

instance : Monad Assembly where
  pure := pure
  bind := bind

def fail (fault : AssemblyFault) : Assembly α := fun s => ⟨.error fault, s, []⟩

def failWith (finding : Finding) : Assembly α := fail (.finding finding)

def failDefect (defect : StackDefect) : Assembly α := fail (.defect defect)

def note (n : Note) : Assembly Unit := fun s => ⟨.ok (), s, [n]⟩

def ofStack (operation : ResultsStack → Except StackDefect α × ResultsStack) : Assembly α := fun s =>
  match operation s with
  | (.ok a, s') => ⟨.ok a, s', []⟩
  | (.error defect, s') => ⟨.error (.defect defect), s', []⟩

def orFind (a? : Option α) (finding : Finding) : Assembly α :=
  match a? with
  | some a => pure a
  | none => failWith finding

/-- What a maker of the factory made, with a note that it was used. -/
def made (maker : TreeFactory.Maker) (a : α) : Assembly α := fun s => ⟨.ok a, s, [.used maker]⟩

def push (production : Production) (node : Node) (token : SourceToken) : Assembly Unit := fun s =>
  ⟨.ok (), s.push production node token, []⟩

def pop : Assembly Entry := ofStack ResultsStack.pop

def popPredicate : Assembly Predicate := ofStack ResultsStack.popPredicate

def popExpression : Assembly Expression := ofStack ResultsStack.popExpression

def popFloat : Assembly Float := fun s =>
  match ResultsStack.popNumber s with
  | (.ok n, s') => ⟨.ok n.toFloat, s', []⟩
  | (.error defect, s') => ⟨.error (.defect defect), s', []⟩

/-- Takes the top entry, which has to hold a value of the wanted kind; unlike the stack's own operations
an empty stack is told as having no result at all. -/
def popHolding (expected : String) (extract : Node → Option α) : Assembly (α × Entry) := fun s =>
  match ResultsStack.pop s with
  | (.ok e, s') =>
    match extract e.node with
    | some a => ⟨.ok (a, e), s', []⟩
    | none => ⟨.error (.defect (.mismatch expected e.production)), s', []⟩
  | (.error defect, s') => ⟨.error (.defect defect), s', []⟩

def popRaw (tag : Production) : Assembly String := ofStack (ResultsStack.popRaw tag)

def drainRun (isMember : Production → Bool) (extract : Node → Option α) : Assembly (List α) :=
  ofStack (ResultsStack.drainRun isMember extract)

def nonEmpty (production : Production) (members : List α) : Assembly (List α) :=
  if members.isEmpty then failDefect (.emptyRun production) else pure members

end Assembly

end GeoFilter
