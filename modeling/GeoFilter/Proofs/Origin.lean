import GeoFilter.Proofs.Completed
import GeoFilter.Proofs.Intake
import GeoFilter.Proofs.NumberKind
import GeoFilter.Proofs.Realization.Number

/-!
# Where results come from

An entry of the results stack stands in a statement if its token is at the place of a lexeme and if the number in it, when
it holds one, is the number that is written there: that of a number's lexeme, or the opposite of it where the token is the
minus in front.  A finding stands in a statement if its token does and if it is not about a number that no kind holds.

Work `Keeps` to a statement if it leaves such entries only, wherever it started with such entries, and finds nothing else.
Completed rules keep to the statement that they were read from, after each of them (`Completed.keeps`): entries with
numbers are left by numbers alone, and the kinds of numbers leave room for the opposite of each.
-/

namespace GeoFilter

/-- Whether an entry is what stands at its place in the statement. -/
structure Entry.StandsIn (L : List Lexeme) (e : Entry) : Prop where
  placed : Placed L e.token
  number : ∀ v, e.node.number? = some v → ∃ n, SignedIn L n ∧ e.token = n.1.getD n.2 ∧ signedValue? n = some v

/-- Whether a finding is about what stands at its place in the statement, and that is no number. -/
structure Finding.StandsIn (L : List Lexeme) (f : Finding) : Prop where
  placed : Placed L f.token
  notNumber : ∀ text, f.fault ≠ .invalidNumber text

namespace Assembly

variable {L : List Lexeme} {work : Assembly α} {next : α → Assembly β} {Q : α → Prop} {R : β → Prop}

def AllStand (L : List Lexeme) (s : ResultsStack) : Prop := ∀ e ∈ s, e.StandsIn L

def KeptBy (L : List Lexeme) (Q : α → Prop) : Except AssemblyFault (α × ResultsStack) → Prop
  | .ok (a, s) => Q a ∧ AllStand L s
  | .error (.finding f) => f.StandsIn L
  | .error (.defect _) => True

/-- Work that keeps to the statement, with an answer that has a property. -/
def Keeps (L : List Lexeme) (work : Assembly α) (Q : α → Prop := fun _ => True) : Prop :=
  ∀ s, AllStand L s → KeptBy L Q (run work s)

theorem allStand_cons {e : Entry} {s : ResultsStack} (he : e.StandsIn L) (hs : AllStand L s) : AllStand L (e :: s) :=
  List.forall_mem_cons.mpr ⟨he, hs⟩

theorem AllStand.of_suffix {s s' : ResultsStack} (h : AllStand L s) (hs : s' <:+ s) : AllStand L s' :=
  fun e he => h e (hs.subset he)

/-! ### One operation after another -/

section Operations

theorem keeps_pure {a : α} (h : Q a) : Keeps L (Pure.pure a) Q := fun _ hs => ⟨h, hs⟩

theorem Keeps.bind (h : Keeps L work Q) (hnext : ∀ a, Q a → Keeps L (next a) R) : Keeps L (work >>= next) R := by
  intro s hs
  have hfirst := h s hs
  rw [run_bind]
  rcases hrun : run work s with (f | defect) | ⟨a, s'⟩ <;> rw [hrun] at hfirst
  · exact hfirst
  · trivial
  · exact hnext a hfirst.1 s' hfirst.2

theorem Keeps.andThen (h : Keeps L work Q) (hnext : ∀ a, Keeps L (next a) R) : Keeps L (work >>= next) R :=
  h.bind fun a _ => hnext a

theorem keeps_failWith {f : Finding} (h : f.StandsIn L) : Keeps L (failWith f : Assembly α) Q := fun _ _ => h

theorem keeps_failDefect (defect : StackDefect) : Keeps L (failDefect defect : Assembly α) Q := fun _ _ => trivial

theorem keeps_made (maker : TreeFactory.Maker) (a : α) : Keeps L (made maker a) := keeps_pure trivial

theorem keeps_orFind {a? : Option α} {f : Finding} (h : a? = none → f.StandsIn L) : Keeps L (orFind a? f) := by
  cases a? with
  | some a => exact keeps_pure trivial
  | none => exact keeps_failWith (h rfl)

theorem keeps_push {production : Production} {node : Node} {token : SourceToken} (htoken : Placed L token)
    (hnode : node.number? = none) : Keeps L (push production node token) :=
  fun _ hs => ⟨trivial, allStand_cons ⟨htoken, fun _ hv => nomatch hnode.symm.trans hv⟩ hs⟩

theorem Takes.keeps {i : Intake} (h : Takes work i) (hfound : ∀ s f, run work s ≠ .error (.finding f)) :
    Keeps L work := by
  intro s hs
  have htaken := h s
  have hnone := hfound s
  unfold run at hnone ⊢
  rcases hw : work s with ⟨(f | defect) | a, s', notes⟩ <;> rw [hw] at htaken hnone
  · exact absurd rfl (hnone f)
  · trivial
  · exact ⟨trivial, hs.of_suffix htaken.suffix⟩

theorem run_ofStack_ne_finding (operation : ResultsStack → Except StackDefect α × ResultsStack) (s : ResultsStack)
    (f : Finding) : run (ofStack operation) s ≠ .error (.finding f) := by
  unfold run ofStack
  rcases operation s with ⟨_ | a, s'⟩ <;> nofun

theorem keeps_popAs (expected : String) (extract : Node → Option α) :
    Keeps L (ofStack (ResultsStack.popAs expected extract)) :=
  (takes_popAs expected extract).keeps (run_ofStack_ne_finding _)

theorem keeps_popPredicate : Keeps L popPredicate := keeps_popAs _ _

theorem keeps_popExpression : Keeps L popExpression := keeps_popAs _ _

theorem keeps_popRaw (tag : Production) : Keeps L (popRaw tag) :=
  (takes_popRaw tag).keeps (run_ofStack_ne_finding _)

theorem keeps_drainRun (isMember : Production → Bool) (extract : Node → Option α) :
    Keeps L (drainRun isMember extract) :=
  (takes_drainRun isMember extract).keeps (run_ofStack_ne_finding _)

theorem keeps_discard (tag : Production) (n : Nat) : Keeps L (ofStack (ResultsStack.discard tag n)) :=
  (takes_discard tag n).keeps (run_ofStack_ne_finding _)

theorem keeps_popFloat : Keeps L popFloat := by
  refine takes_popFloat.keeps fun s f => ?_
  unfold run popFloat
  rcases ResultsStack.popNumber s with ⟨_ | n, s'⟩ <;> nofun

theorem keeps_pop : Keeps L pop (Entry.StandsIn L) := by
  rintro (_ | ⟨e, s⟩) hs
  · trivial
  · obtain ⟨he, hs⟩ := List.forall_mem_cons.mp hs
    exact ⟨he, hs⟩

theorem keeps_popHolding (expected : String) (extract : Node → Option α) :
    Keeps L (popHolding expected extract) fun x => x.2.StandsIn L := by
  rintro (_ | ⟨e, s⟩) hs
  · trivial
  · obtain ⟨he, hs⟩ := List.forall_mem_cons.mp hs
    cases hvalue : extract e.node with
    | some a =>
      rw [run_popHolding hvalue]
      exact ⟨he, hs⟩
    | none =>
      simp only [run, popHolding, ResultsStack.pop, hvalue]
      trivial

theorem keeps_retag (production : Production) : Keeps L (ofStack (ResultsStack.retag production)) := by
  rintro (_ | ⟨e, s⟩) hs
  · trivial
  · obtain ⟨he, hs⟩ := List.forall_mem_cons.mp hs
    exact ⟨trivial, allStand_cons ⟨he.placed, he.number⟩ hs⟩

theorem keeps_nonEmpty (production : Production) (members : List α) : Keeps L (nonEmpty production members) := by
  rw [nonEmpty]
  split
  · exact keeps_failDefect _
  · exact keeps_pure trivial

end Operations

/-! ### The work of a production -/

section Productions

variable {kit : Toolkit} {factory : TreeFactory} {production : Production} {token : SourceToken}
  (htoken : Placed L token)

theorem keeps_negatedIf (negated : Bool) (p : Predicate) : Keeps L (negatedIf factory negated p) := by
  cases negated with
  | true => exact keeps_made _ _
  | false => exact keeps_pure trivial

theorem keeps_equalities (operand : Expression) (candidates : List Expression) :
    Keeps L (equalities factory operand candidates) := by
  induction candidates with
  | nil => exact keeps_pure trivial
  | cons candidate candidates ih => exact (keeps_made _ _).andThen fun _ => ih.andThen fun _ => keeps_pure trivial

include htoken

theorem keeps_attachCrs (resolver : CrsResolver) (literal : GeometryLiteral) (srid : Int32) :
    Keeps L (attachCrs resolver literal srid token) := by
  rw [attachCrs]
  split
  · exact keeps_pure trivial
  · exact keeps_failWith ⟨htoken, by rintro _ ⟨⟩⟩

omit htoken in
theorem keeps_attachCode (resolver : CrsResolver) (literal : GeometryLiteral) {code : List SourceToken}
    (hcode : ∀ token ∈ code, Placed L token) : Keeps L (attachCode resolver literal code.head?) := by
  cases code with
  | nil => exact keeps_pure trivial
  | cons token code =>
    have htoken := hcode token List.mem_cons_self
    exact (keeps_orFind fun _ => ⟨htoken, by rintro _ ⟨⟩⟩).andThen fun _ => keeps_attachCrs htoken _ _ _

theorem keeps_orDegenerate (r : Except GeometryError α) : Keeps L (orDegenerate token r) := by
  cases r with
  | ok a => exact keeps_pure trivial
  | error e => exact keeps_failWith ⟨htoken, by rintro _ ⟨⟩⟩

theorem keeps_pushPredicate (p : Predicate) : Keeps L (pushPredicate production p token) := keeps_push htoken rfl

theorem keeps_pushExpression (x : Expression) : Keeps L (pushExpression production x token) := keeps_push htoken rfl

theorem keeps_pushLiteral (g : GeometryLiteral) : Keeps L (pushLiteral production g token) := keeps_push htoken rfl

theorem keeps_function : Keeps L (function factory token) :=
  (keeps_drainRun _ _).andThen fun _ => (keeps_popRaw _).andThen fun _ => (keeps_made _ _).andThen fun _ =>
    keeps_pushExpression htoken _

theorem keeps_connect (maker : TreeFactory.Maker) (make : Predicate → Predicate → Predicate) :
    Keeps L (connect production maker make token) :=
  keeps_popPredicate.andThen fun _ => keeps_popPredicate.andThen fun _ => (keeps_made _ _).andThen fun _ =>
    keeps_pushPredicate htoken _

theorem keeps_featureIds : Keeps L (featureIds factory token) :=
  (keeps_drainRun _ _).andThen fun _ => (keeps_nonEmpty _ _).andThen fun _ => (keeps_made _ _).andThen fun _ =>
    keeps_pushPredicate htoken _

theorem keeps_inList (negated : Bool) : Keeps L (inList factory production negated token) :=
  (keeps_drainRun _ _).andThen fun _ => (keeps_nonEmpty _ _).andThen fun _ => keeps_popExpression.andThen fun _ =>
    (keeps_equalities _ _).andThen fun _ => (keeps_made _ _).andThen fun _ => (keeps_negatedIf _ _).andThen fun _ =>
    keeps_pushPredicate htoken _

theorem keeps_isNull (negated : Bool) : Keeps L (isNull factory production negated token) :=
  keeps_popExpression.andThen fun _ => (keeps_made _ _).andThen fun _ => (keeps_negatedIf _ _).andThen fun _ =>
    keeps_pushPredicate htoken _

theorem keeps_like (ignoringCase negated : Bool) : Keeps L (like factory production ignoringCase negated token) :=
  (keeps_popHolding _ _).andThen fun _ => keeps_popExpression.andThen fun _ => (keeps_made _ _).andThen fun _ =>
    (keeps_negatedIf _ _).andThen fun _ => keeps_pushPredicate htoken _

theorem keeps_between (negated : Bool) : Keeps L (between factory production negated token) :=
  keeps_popExpression.andThen fun _ => keeps_popExpression.andThen fun _ => keeps_popExpression.andThen fun _ =>
    (keeps_made _ _).andThen fun _ => (keeps_negatedIf _ _).andThen fun _ => keeps_pushPredicate htoken _

theorem keeps_spatial (op : SpatialOp) (right : Expression) : Keeps L (spatial factory op right token) :=
  keeps_popExpression.andThen fun _ => (keeps_made _ _).andThen fun _ => keeps_pushPredicate htoken _

theorem keeps_bbox {code : List SourceToken} (hcode : ∀ token ∈ code, Placed L token) :
    Keeps L (bbox kit token code.head?) :=
  keeps_popFloat.andThen fun _ => keeps_popFloat.andThen fun _ => keeps_popFloat.andThen fun _ =>
    keeps_popFloat.andThen fun _ => (keeps_attachCode _ _ hcode).andThen fun _ => keeps_popExpression.andThen fun _ =>
    (keeps_made _ _).andThen fun _ => (keeps_made _ _).andThen fun _ => keeps_pushPredicate htoken _

theorem keeps_distance (op : DistanceOp) {words : List SourceToken} (hwords : ∀ word ∈ words, Placed L word) :
    Keeps L (distance factory op token words) := by
  cases words with
  | nil => exact keeps_failDefect _
  | cons word words =>
    rw [distance]
    generalize DistanceUnits.ofText? _ = units?
    have hword := hwords word List.mem_cons_self
    exact (keeps_orFind fun _ => ⟨hword, by rintro _ ⟨⟩⟩).andThen fun _ => keeps_popFloat.andThen fun _ =>
      keeps_popExpression.andThen fun _ => keeps_popExpression.andThen fun _ => (keeps_made _ _).andThen fun _ =>
      keeps_pushPredicate htoken _

theorem keeps_relateWith (name : String) {more : Expression → Expression → Assembly (List Expression)}
    (hmore : ∀ left right, Keeps L (more left right)) : Keeps L (relateWith factory production name more token) :=
  keeps_popExpression.andThen fun _ => keeps_popExpression.andThen fun _ => (hmore _ _).andThen fun _ =>
    (keeps_made _ _).andThen fun _ => (keeps_made _ _).andThen fun _ => (keeps_made _ _).andThen fun _ =>
    keeps_pushPredicate htoken _

theorem keeps_relatePattern : Keeps L (relatePattern factory token) :=
  (keeps_popRaw _).andThen fun _ => keeps_relateWith htoken _ fun _ _ =>
    (keeps_made _ _).andThen fun _ => keeps_pure trivial

omit htoken in
theorem keeps_de9imPattern : Keeps L de9imPattern := by
  refine (keeps_popHolding _ _).bind fun (pattern, e) he => ?_
  dsimp only
  split
  · exact keeps_push he.placed rfl
  · exact keeps_failWith ⟨he.placed, by rintro _ ⟨⟩⟩

/-! ### The work of a geometry -/

theorem keeps_coordinate : Keeps L (coordinate token) :=
  keeps_popFloat.andThen fun _ => keeps_popFloat.andThen fun _ => keeps_push htoken rfl

theorem keeps_pushGeometry {work : Assembly Geometry} (h : Keeps L work) :
    Keeps L (pushGeometry production token work) :=
  h.andThen fun _ => keeps_push htoken rfl

theorem keeps_lineString : Keeps L (lineString token) :=
  (keeps_drainRun _ _).andThen fun _ => keeps_orDegenerate htoken _

theorem keeps_polygon : Keeps L (polygon token) := by
  refine (keeps_drainRun _ _).andThen fun rings => ?_
  cases rings with
  | nil => exact keeps_failDefect _
  | cons shell holes => exact keeps_orDegenerate htoken _

omit htoken in
theorem keeps_nonEmpty_members (production : Production) (role : GeometryRole) (extract : Node → Option α)
    (make : List α → Geometry) : Keeps L (do return make (← nonEmpty production (← members role extract))) :=
  (keeps_drainRun _ _).andThen fun _ => (keeps_nonEmpty _ _).andThen fun _ => keeps_pure trivial

/-! ### The work of a geometry literal -/

omit htoken in
theorem keeps_popGeometryLiteral : Keeps L popGeometryLiteral :=
  (keeps_popHolding _ _).andThen fun _ => keeps_pure trivial

theorem keeps_geometryLiteral : Keeps L (geometryLiteral token) :=
  (keeps_popAs _ _).andThen fun _ => keeps_pushLiteral htoken _

omit htoken in
theorem keeps_sridOf {e : Entry} (he : e.StandsIn L) : Keeps L (sridOf e) := by
  rw [sridOf]
  split
  · exact keeps_pure trivial
  · exact keeps_failWith ⟨he.placed, by rintro _ ⟨⟩⟩
  · exact keeps_failDefect _

theorem keeps_sridGeometryLiteral (resolver : CrsResolver) : Keeps L (sridGeometryLiteral resolver token) :=
  keeps_popGeometryLiteral.andThen fun _ => keeps_pop.bind fun _ he => (keeps_sridOf he).andThen fun _ =>
    (keeps_attachCrs he.placed _ _ _).andThen fun _ => keeps_pushLiteral htoken _

theorem keeps_geometryLiteralWithSrid (resolver : CrsResolver) {more : List SourceToken}
    (hmore : ∀ token ∈ more, Placed L token) : Keeps L (geometryLiteralWithSrid resolver token more) := by
  cases more with
  | nil => exact keeps_failDefect _
  | cons number more =>
    rw [geometryLiteralWithSrid]
    generalize Decimal.readInt32? _ = srid?
    have hnumber := hmore number List.mem_cons_self
    exact (keeps_orFind fun _ => ⟨hnumber, by rintro _ ⟨⟩⟩).andThen fun _ => keeps_popGeometryLiteral.andThen fun _ =>
      (keeps_attachCrs hnumber _ _ _).andThen fun _ => keeps_pushLiteral htoken _

/-! ### A plain reduction -/

theorem keeps_baseStep {more : List SourceToken} (hmore : ∀ token ∈ more, Placed L token)
    (hplain : production.isPlain = true) : Keeps L (baseStep kit production token more) := by
  cases production with
  | propertyName => exact (keeps_made _ _).andThen fun _ => keeps_pushExpression htoken _
  | functionArgument => exact keeps_retag _
  | inListMember => exact keeps_retag _
  | function => exact keeps_function htoken
  | arithmetic op =>
    exact keeps_popExpression.andThen fun _ => keeps_popExpression.andThen fun _ => (keeps_made _ _).andThen fun _ =>
      keeps_pushExpression htoken _
  | comparison op =>
    exact keeps_popExpression.andThen fun _ => keeps_popExpression.andThen fun _ => (keeps_made _ _).andThen fun _ =>
      keeps_pushPredicate htoken _
  | and => exact keeps_connect htoken _ _
  | or => exact keeps_connect htoken _ _
  | not =>
    exact keeps_popPredicate.andThen fun _ => (keeps_made _ _).andThen fun _ => keeps_pushPredicate htoken _
  | includeAll => exact (keeps_made _ _).andThen fun _ => keeps_pushPredicate htoken _
  | excludeAll => exact (keeps_made _ _).andThen fun _ => keeps_pushPredicate htoken _
  | featureIdPredicate => exact keeps_featureIds htoken
  | inPredicate => exact keeps_inList htoken _
  | notInPredicate => exact keeps_inList htoken _
  | isNull => exact keeps_isNull htoken _
  | isNotNull => exact keeps_isNull htoken _
  | like => exact keeps_like htoken _ _
  | notLike => exact keeps_like htoken _ _
  | ilike => exact keeps_like htoken _ _
  | notILike => exact keeps_like htoken _ _
  | between => exact keeps_between htoken _
  | notBetween => exact keeps_between htoken _
  | spatial op =>
    exact keeps_popGeometryLiteral.andThen fun _ => (keeps_made _ _).andThen fun _ => keeps_spatial htoken _ _
  | bbox => exact keeps_bbox htoken hmore
  | distance op => exact keeps_distance htoken _ hmore
  | relate => exact keeps_relateWith htoken _ fun _ _ => keeps_pure trivial
  | relatePattern => exact keeps_relatePattern htoken
  | de9imPattern => exact keeps_de9imPattern
  | coordinate => exact keeps_coordinate htoken
  | pointText role =>
    exact keeps_pushGeometry htoken ((keeps_popAs _ _).andThen fun _ => keeps_pure trivial)
  | lineStringText role =>
    exact keeps_pushGeometry htoken ((keeps_lineString htoken).andThen fun _ => keeps_pure trivial)
  | polygonText role =>
    exact keeps_pushGeometry htoken ((keeps_polygon htoken).andThen fun _ => keeps_pure trivial)
  | multiPointText role => exact keeps_pushGeometry htoken (keeps_nonEmpty_members _ _ _ _)
  | multiLineStringText role => exact keeps_pushGeometry htoken (keeps_nonEmpty_members _ _ _ _)
  | multiPolygonText role => exact keeps_pushGeometry htoken (keeps_nonEmpty_members _ _ _ _)
  | collectionText role =>
    exact keeps_pushGeometry htoken ((keeps_drainRun _ _).andThen fun _ => (keeps_popRaw _).andThen fun _ =>
      keeps_pure trivial)
  | geometryLiteral => exact keeps_geometryLiteral htoken
  | sridGeometryLiteral => exact keeps_sridGeometryLiteral htoken _
  | geometryLiteralWithSrid => exact keeps_failDefect _
  | stringLiteral | booleanLiteral | functionName | featureId | collectionStart => exact keeps_push htoken rfl
  | _ => cases hplain

theorem keeps_extendedStep {more : List SourceToken} (hmore : ∀ token ∈ more, Placed L token)
    (hplain : production.isPlain = true) : Keeps L (extendedStep kit production token more) := by
  have hbase : Keeps L (baseStep kit production token more) := keeps_baseStep htoken hmore hplain
  rw [extendedStep.eq_def]
  split
  case h_1 => exact keeps_popExpression.andThen fun _ => keeps_spatial htoken _ _
  case h_2 => cases hplain
  case h_3 => exact keeps_geometryLiteralWithSrid htoken _ hmore
  case h_4 op =>
    refine Keeps.andThen (Q := fun _ => True) (fun s hs => ?_) fun _ => hbase
    rw [run_remarkOnWord]
    exact ⟨trivial, hs⟩
  case h_5 => exact hbase

end Productions

end Assembly

end GeoFilter
