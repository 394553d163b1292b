import GeoFilter.Assembly.Build
import GeoFilter.Proofs.Stack

/-!
# Work without its notes

What a piece of work answers and the stack it leaves, without the notes: `Assembly.run`.  The operations of
the stack are computed on a stack whose upper entries are known, so the work of a reduction is computed by
rewriting with the lemmas below.
-/

namespace GeoFilter

/-- What a piece of work answers with the stack it leaves, or why it failed. -/
def Assembly.run (work : Assembly α) (s : ResultsStack) : Except AssemblyFault (α × ResultsStack) :=
  match (work s).result with
  | .ok a => .ok (a, (work s).stack)
  | .error fault => .error fault

namespace Assembly

variable {s : ResultsStack} {e : Entry}

@[simp] theorem run_pure (a : α) : run (Pure.pure a) s = .ok (a, s) := rfl

@[simp] theorem run_bind (work : Assembly α) (next : α → Assembly β) :
    run (work >>= next) s =
      match run work s with
      | .ok (a, s') => run (next a) s'
      | .error fault => .error fault := by
  change run (Assembly.bind work next) s = _
  rcases h : work s with ⟨_ | a, s', notes⟩ <;> simp [run, Assembly.bind, h]

@[simp] theorem run_failWith (finding : Finding) :
    run (failWith finding : Assembly α) s = .error (.finding finding) := rfl

@[simp] theorem run_note (n : Note) : run (note n) s = .ok ((), s) := rfl

@[simp] theorem run_made (maker : TreeFactory.Maker) (a : α) : run (made maker a) s = .ok (a, s) := rfl

@[simp] theorem run_push (production : Production) (node : Node) (token : SourceToken) :
    run (push production node token) s = .ok ((), ⟨production, node, token⟩ :: s) := rfl

@[simp] theorem run_pushPredicate (production : Production) (p : Predicate) (token : SourceToken) :
    run (pushPredicate production p token) s = .ok ((), ⟨production, .predicate p, token⟩ :: s) := rfl

@[simp] theorem run_pushExpression (production : Production) (x : Expression) (token : SourceToken) :
    run (pushExpression production x token) s = .ok ((), ⟨production, .expression x, token⟩ :: s) := rfl

@[simp] theorem run_pushLiteral (production : Production) (g : GeometryLiteral) (token : SourceToken) :
    run (pushLiteral production g token) s =
      .ok ((), ⟨production, .literal (.geometry g), token⟩ :: s) := rfl

@[simp] theorem run_pop : run pop (e :: s) = .ok (e, s) := rfl

theorem run_orFind (a? : Option α) (finding : Finding) :
    run (orFind a? finding) s =
      match a? with
      | some a => .ok (a, s)
      | none => .error (.finding finding) := by
  cases a? <;> rfl

@[simp] theorem run_negatedIf (factory : TreeFactory) (negated : Bool) (p : Predicate) :
    run (negatedIf factory negated p) s = .ok (if negated then factory.not p else p, s) := by
  cases negated <;> rfl

/-! ### Entries of a known kind -/

theorem run_popAs {expected : String} {extract : Node → Option α} {a : α} (h : extract e.node = some a) :
    run (ofStack (ResultsStack.popAs expected extract)) (e :: s) = .ok (a, s) := by
  simp [run, ofStack, ResultsStack.popAs, h]

theorem run_popPredicate {p : Predicate} (h : e.node.predicate? = some p) :
    run popPredicate (e :: s) = .ok (p, s) := run_popAs h

theorem run_popExpression {x : Expression} (h : e.node.expression? = some x) :
    run popExpression (e :: s) = .ok (x, s) := run_popAs h

theorem run_popFloat {n : Number} (h : e.node.number? = some n) :
    run popFloat (e :: s) = .ok (n.toFloat, s) := by
  simp [run, popFloat, ResultsStack.popNumber, ResultsStack.popAs, h]

theorem run_popHolding {expected : String} {extract : Node → Option α} {a : α}
    (h : extract e.node = some a) : run (popHolding expected extract) (e :: s) = .ok ((a, e), s) := by
  simp [run, popHolding, ResultsStack.pop, h]

@[simp] theorem run_popRaw (tag : Production) (text : String) (token : SourceToken) :
    run (popRaw tag) (⟨tag, .raw text, token⟩ :: s) = .ok (text, s) := by
  simp [run, popRaw, ofStack, ResultsStack.popRaw, Node.raw?]

@[simp] theorem run_retag (production : Production) :
    run (ofStack (ResultsStack.retag production)) (e :: s) = .ok ((), { e with production } :: s) := rfl

/-! ### Runs -/

theorem run_drainRun {isMember : Production → Bool} {extract : Node → Option α} {run : List Entry}
    {values : List α} (hrun : List.Forall₂ (ResultsStack.IsMember isMember extract) values run)
    (hs : s.TopFree isMember) :
    (drainRun isMember extract).run (run.reverse ++ s) = .ok (values, s) := by
  simp [Assembly.run, drainRun, ofStack, ResultsStack.drainRun_run hrun hs]

theorem run_nonEmpty {production : Production} {members : List α} (h : members ≠ []) :
    run (nonEmpty production members) s = .ok (members, s) := by
  rw [nonEmpty, if_neg (by simpa using h)]
  rfl

@[simp] theorem run_equalities (factory : TreeFactory) (operand : Expression)
    (candidates : List Expression) :
    run (equalities factory operand candidates) s =
      .ok (candidates.map (factory.compare .eq operand), s) := by
  induction candidates with
  | nil => rfl
  | cons candidate candidates ih => simp [equalities, ih]

/-! ### Reductions one after the other -/

variable {dialect : Dialect} {kit : Toolkit}

theorem run_steps_append (first second : List Reduction) :
    run (steps dialect kit (first ++ second)) s =
      match run (steps dialect kit first) s with
      | .ok (_, s') => run (steps dialect kit second) s'
      | .error fault => .error fault := by
  induction first generalizing s with
  | nil => rfl
  | cons r first ih =>
    rw [List.cons_append, steps, steps, run_bind, run_bind]
    cases run (step dialect kit r) s with
    | ok x => exact ih
    | error fault => rfl

theorem run_steps_singleton (r : Reduction) :
    run (steps dialect kit [r]) s = run (step dialect kit r) s := by
  rw [steps, run_bind]
  cases run (step dialect kit r) s <;> rfl

/-- The productions that are assembled in the same way in both dialects. -/
def isShared : Production → Bool
  | .spatial _ | .envelope | .envelopeComponent | .srid | .sridGeometryLiteral
  | .geometryLiteralWithSrid => false
  | _ => true

@[simp] theorem run_remarkOnWord (op : ComparisonOp) (token : SourceToken) :
    run (remarkOnWord op token) s = .ok ((), s) := by
  rw [remarkOnWord]
  split <;> rfl

/-- A shared production is assembled by the base dialect's step in both dialects. -/
theorem run_step_shared {production : Production} (h : isShared production = true) (token : SourceToken)
    (more : List SourceToken) :
    run (step dialect kit ⟨production, token :: more⟩) s = run (baseStep kit production token more) s := by
  cases dialect with
  | cql => rfl
  | ecql =>
    cases production with
    | comparison op => simp [step, hasProduction, extendedStep]
    | _ => first | rfl | cases h

end Assembly

end GeoFilter
