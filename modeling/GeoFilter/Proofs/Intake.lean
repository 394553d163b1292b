import GeoFilter.Assembly.Step
import Mathlib.Data.List.Forall2

/-!
# What a reduction takes off the results stack

The work of a reduction touches only the top of the stack.  What it takes is its `Intake`: a run of
entries of one kind of tag, as long as it goes on, and a fixed number of operands beneath the run; most
productions have operands only.  Work that succeeds leaves what lies beneath its intake with exactly one
entry on top; work that fails has taken some entries and adds none (`Assembly.step_intake`).

The stack may be any, and so may the tokens, also such as no reading comes to.  `Takes` is about work that
only takes and `Replaces` about work that leaves its result in the place of what it took; both follow from
what the first operation does and what the operations behind it do.
-/

namespace GeoFilter

/-- What a piece of work takes: the entries with the tags of a run, and then an operand for each of the
given conditions on its tag. -/
structure Intake where
  isMember : Production → Bool
  operands : List (Production → Bool)

namespace Intake

def fixed (operands : List (Production → Bool)) : Intake :=
  ⟨fun _ => false, operands⟩

def any (n : Nat) : Intake :=
  fixed (List.replicate n fun _ => true)

def run (isMember : Production → Bool) : Intake :=
  ⟨isMember, []⟩

def ofRole (role : GeometryRole) : Intake :=
  run fun p => p.role? == some role

/-- The run at the top of a stack: as many entries as have its tags. -/
def members (i : Intake) (s : ResultsStack) : List Entry :=
  s.takeWhile fun e => i.isMember e.production

def count (i : Intake) (s : ResultsStack) : Nat :=
  (i.members s).length + i.operands.length

/-- Whether the operands lie beneath the run, each with a tag that fits. -/
def OnTop (i : Intake) (s : ResultsStack) : Prop :=
  List.Forall₂ (fun fits e => fits e.production = true) i.operands
    ((s.drop (i.members s).length).take i.operands.length)

end Intake

/-- What the work of a production of the base dialect takes. -/
def Production.intake : Production → Intake
  | propertyName => .any 0
  | integerLiteral => .any 0
  | floatingLiteral => .any 0
  | stringLiteral => .any 0
  | booleanLiteral => .any 0
  | negativeNumber => .any 1
  | functionName => .any 0
  | functionArgument => .any 1
  | function => ⟨(· == functionArgument), [(· == functionName)]⟩
  | arithmetic _ => .any 2
  | comparison _ => .any 2
  | and => .any 2
  | or => .any 2
  | not => .any 1
  | includeAll => .any 0
  | excludeAll => .any 0
  | featureId => .any 0
  | featureIdPredicate => .run (· == featureId)
  | inListMember => .any 1
  | inPredicate => ⟨(· == inListMember), [fun _ => true]⟩
  | notInPredicate => ⟨(· == inListMember), [fun _ => true]⟩
  | isNull => .any 1
  | isNotNull => .any 1
  | like => .any 2
  | notLike => .any 2
  | ilike => .any 2
  | notILike => .any 2
  | between => .any 3
  | notBetween => .any 3
  | spatial _ => .any 2
  | bbox => .any 5
  | distance _ => .any 3
  | relate => .any 2
  | relatePattern => .fixed [(· == de9imPattern), fun _ => true, fun _ => true]
  | de9imPattern => .any 1
  | ordinate => .any 0
  | coordinate => .any 2
  | pointText _ => .any 1
  | lineStringText _ => .run (· == coordinate)
  | polygonText _ => .run (· == lineStringText .ring)
  | multiPointText _ => .ofRole .multiPointMember
  | multiLineStringText _ => .ofRole .multiLineStringMember
  | multiPolygonText _ => .ofRole .multiPolygonMember
  | collectionStart => .any 0
  | collectionText _ => ⟨fun p => p.role? == some .collectionMember, [(· == collectionStart)]⟩
  | geometryLiteral => .any 1
  | srid => .any 0
  | sridGeometryLiteral => .fixed [fun _ => true, (· == srid)]
  | geometryLiteralWithSrid => .any 1
  | envelopeComponent => .any 0
  | envelope => .fixed (List.replicate Assembly.envelopeComponents (· == envelopeComponent))

/-- What the work of a production takes.  The extended dialect has the bounds of an ENVELOPE in the tokens
alone. -/
def Dialect.intake : Dialect → Production → Intake
  | .ecql, .envelope => .any 0
  | _, production => production.intake

theorem Dialect.intake_of_ne_envelope {dialect : Dialect} {production : Production}
    (h : production ≠ .envelope) : dialect.intake production = production.intake := by
  rw [Dialect.intake.eq_def]
  split
  · contradiction
  · rfl

namespace Intake

/-- An intake that covers a stack down to the given rest. -/
def Covers (i : Intake) (s rest : ResultsStack) : Prop :=
  ∃ operands : List Entry,
    List.Forall₂ (fun fits e => fits e.production = true) i.operands operands ∧
      s = i.members s ++ (operands ++ rest)

variable {i : Intake} {isMember : Production → Bool} {first second : List (Production → Bool)}
  {s s' rest : ResultsStack}

theorem members_fixed (operands : List (Production → Bool)) (s : ResultsStack) :
    (fixed operands).members s = [] := by
  cases s <;> rfl

@[simp] theorem count_fixed (operands : List (Production → Bool)) (s : ResultsStack) :
    (fixed operands).count s = operands.length := by
  rw [count, members_fixed]
  exact Nat.zero_add _

@[simp] theorem count_any (n : Nat) (s : ResultsStack) : (any n).count s = n := by
  simp [any]

theorem covers_fixed {operands : List (Production → Bool)} :
    (fixed operands).Covers s rest ↔
      ∃ taken : List Entry, List.Forall₂ (fun fits e => fits e.production = true) operands taken ∧
        s = taken ++ rest := by
  rw [Covers, members_fixed]
  rfl

theorem covers_nothing : (fixed []).Covers s s :=
  covers_fixed.mpr ⟨[], .nil, rfl⟩

theorem Covers.append (h : Covers ⟨isMember, first⟩ s s') (h' : (fixed second).Covers s' rest) :
    Covers ⟨isMember, first ++ second⟩ s rest := by
  obtain ⟨operands, hfits, hs⟩ := h
  obtain ⟨more, hmore, rfl⟩ := covers_fixed.mp h'
  refine ⟨operands ++ more, List.rel_append hfits hmore, ?_⟩
  rw [List.append_assoc]
  exact hs

theorem Covers.suffix (h : i.Covers s rest) : rest <:+ s := by
  obtain ⟨operands, -, hs⟩ := h
  rw [hs, ← List.append_assoc]
  exact List.suffix_append _ _

/-- What an intake covers is on top, and the rest is the stack without so many entries. -/
theorem Covers.onTop (h : i.Covers s rest) : i.OnTop s ∧ rest = s.drop (i.count s) := by
  obtain ⟨operands, hfits, hs⟩ := h
  have hbeneath : s.drop (i.members s).length = operands ++ rest := by
    calc s.drop (i.members s).length
        = (i.members s ++ (operands ++ rest)).drop (i.members s).length := by rw [← hs]
      _ = operands ++ rest := List.drop_left
  have hlength : i.operands.length = operands.length := hfits.length_eq
  constructor
  · rwa [OnTop, hbeneath, hlength, List.take_left]
  · rw [count, ← List.drop_drop, hbeneath, hlength, List.drop_left]

end Intake

namespace Assembly

open Intake (fixed)

/-- Work that answers with a stack in the given relation to the one before, and that has taken some
entries when it fails. -/
def Leaves (work : Assembly α) (relation : ResultsStack → ResultsStack → Prop) : Prop :=
  ∀ s, match work s with
    | ⟨.ok _, s', _⟩ => relation s s'
    | ⟨.error _, s', _⟩ => s' <:+ s

def Takes (work : Assembly α) (i : Intake) : Prop :=
  Leaves work i.Covers

def Replaces (work : Assembly α) (i : Intake) : Prop :=
  Leaves work fun s s' => ∃ e rest, s' = e :: rest ∧ i.Covers s rest

/-! ### One operation after another -/

section Sequence

variable {isMember : Production → Bool} {first second : List (Production → Bool)} {work : Assembly α}

theorem Leaves.mono {relation weaker : ResultsStack → ResultsStack → Prop} (h : Leaves work relation)
    (hweaker : ∀ s s', relation s s' → weaker s s') : Leaves work weaker := by
  intro s
  have hs := h s
  rcases hw : work s with ⟨_ | a, s', notes⟩ <;> rw [hw] at hs
  · exact hs
  · exact hweaker s s' hs

theorem Takes.leaves {i : Intake} {relation : ResultsStack → ResultsStack → Prop} (h : Takes work i)
    {next : α → Assembly β} (hnext : ∀ a, Leaves (next a) relation) :
    Leaves (work >>= next) fun s s'' => ∃ s', i.Covers s s' ∧ relation s' s'' := by
  intro s
  change match Assembly.bind work next s with | ⟨.ok _, _, _⟩ => _ | ⟨.error _, _, _⟩ => _
  have hs := h s
  rcases hw : work s with ⟨_ | a, s', notes⟩ <;> rw [hw] at hs
  · simpa only [Assembly.bind, hw] using hs
  · have hs' := hnext a s'
    rcases hn : next a s' with ⟨_ | b, s'', more⟩ <;> rw [hn] at hs' <;>
      simp only [Assembly.bind, hw, hn]
    · exact hs'.trans hs.suffix
    · exact ⟨s', hs, hs'⟩

theorem Takes.bind (h : Takes work ⟨isMember, first⟩) {next : α → Assembly β}
    (hnext : ∀ a, Takes (next a) (fixed second)) :
    Takes (work >>= next) ⟨isMember, first ++ second⟩ :=
  (h.leaves hnext).mono fun _ _ ⟨_, hs, hs'⟩ => hs.append hs'

theorem Takes.replaces (h : Takes work ⟨isMember, first⟩) {next : α → Assembly β}
    (hnext : ∀ a, Replaces (next a) (fixed second)) :
    Replaces (work >>= next) ⟨isMember, first ++ second⟩ :=
  (h.leaves hnext).mono fun _ _ ⟨_, hs, e, rest, hrest, hs'⟩ => ⟨e, rest, hrest, hs.append hs'⟩

end Sequence

/-! ### The operations -/

section Operations

theorem takes_pure (a : α) : Takes (Pure.pure a) (.any 0) := fun _ => Intake.covers_nothing

theorem takes_made (maker : TreeFactory.Maker) (a : α) : Takes (made maker a) (.any 0) :=
  fun _ => Intake.covers_nothing

theorem takes_note (n : Note) : Takes (note n) (.any 0) := fun _ => Intake.covers_nothing

theorem takes_fail (fault : AssemblyFault) (i : Intake) : Takes (fail fault : Assembly α) i :=
  fun s => s.suffix_refl

theorem replaces_fail (fault : AssemblyFault) (i : Intake) : Replaces (fail fault : Assembly α) i :=
  fun s => s.suffix_refl

theorem takes_orFind (a? : Option α) (finding : Finding) : Takes (orFind a? finding) (.any 0) := by
  cases a? with
  | none => exact takes_fail _ _
  | some a => exact takes_pure a

theorem replaces_push (production : Production) (node : Node) (token : SourceToken) :
    Replaces (push production node token) (.any 0) :=
  fun s => ⟨_, s, rfl, Intake.covers_nothing⟩

/-- Work that takes the top entry off, whether or not it succeeds, and fails without one. -/
theorem takes_top {work : Assembly α} {fits : Production → Bool}
    (hnil : ∃ fault notes, work [] = ⟨.error fault, [], notes⟩)
    (hcons : ∀ e s, (work (e :: s)).stack = s ∧
      ∀ a, (work (e :: s)).result = .ok a → fits e.production = true) :
    Takes work (fixed [fits]) := by
  intro s
  cases s with
  | nil =>
    obtain ⟨fault, notes, h⟩ := hnil
    simp only [h, List.suffix_refl]
  | cons e s =>
    obtain ⟨hrest, hfits⟩ := hcons e s
    rcases h : work (e :: s) with ⟨_ | a, s', notes⟩ <;> rw [h] at hrest hfits <;> cases hrest
    · exact List.suffix_cons _ _
    · exact Intake.covers_fixed.mpr ⟨[e], .cons (hfits a rfl) .nil, rfl⟩

theorem takes_popAs (expected : String) (extract : Node → Option α) :
    Takes (ofStack (ResultsStack.popAs expected extract)) (.any 1) := by
  refine takes_top ⟨_, _, rfl⟩ fun e s => ⟨?_, fun _ _ => rfl⟩
  cases h : extract e.node <;> simp [ofStack, ResultsStack.popAs, h]

theorem takes_popPredicate : Takes popPredicate (.any 1) := takes_popAs _ _

theorem takes_popExpression : Takes popExpression (.any 1) := takes_popAs _ _

theorem takes_popFloat : Takes popFloat (.any 1) := by
  refine takes_top ⟨_, _, rfl⟩ fun e s => ⟨?_, fun _ _ => rfl⟩
  cases h : e.node.number? <;> simp [popFloat, ResultsStack.popNumber, ResultsStack.popAs, h]

theorem takes_popHolding (expected : String) (extract : Node → Option α) :
    Takes (popHolding expected extract) (.any 1) := by
  refine takes_top ⟨_, _, rfl⟩ fun e s => ⟨?_, fun _ _ => rfl⟩
  cases h : extract e.node <;> simp [popHolding, ResultsStack.pop, h]

theorem takes_popRaw (tag : Production) : Takes (popRaw tag) (fixed [(· == tag)]) := by
  refine takes_top ⟨_, _, rfl⟩ fun e s => ?_
  by_cases htag : e.production = tag <;> cases h : e.node.raw? <;>
    simp [popRaw, ofStack, ResultsStack.popRaw, h, htag]

theorem takes_popGeometryLiteral : Takes popGeometryLiteral (.any 1) :=
  (takes_popHolding _ _).bind fun _ => takes_pure _

theorem takes_discard (tag : Production) (n : Nat) :
    Takes (ofStack (ResultsStack.discard tag n)) (fixed (List.replicate n (· == tag))) := by
  intro s
  induction n generalizing s with
  | zero => exact Intake.covers_nothing
  | succ n ih =>
    cases s with
    | nil => exact List.suffix_refl _
    | cons e s =>
      by_cases htag : e.production = tag
      · have hs := ih s
        simp only [ofStack, ResultsStack.discard, if_pos htag] at hs ⊢
        rcases hd : ResultsStack.discard tag n s with ⟨_ | u, s'⟩ <;> rw [hd] at hs
        · exact hs.trans (List.suffix_cons _ _)
        · obtain ⟨taken, hfits, rfl⟩ := Intake.covers_fixed.mp hs
          exact Intake.covers_fixed.mpr ⟨e :: taken, .cons (by simpa using htag) hfits, rfl⟩
      · simp only [ofStack, ResultsStack.discard, if_neg htag]
        exact List.suffix_cons _ _

theorem replaces_retag (production : Production) :
    Replaces (ofStack (ResultsStack.retag production)) (.any 1) := by
  intro s
  cases s with
  | nil => exact List.suffix_refl _
  | cons e s => exact ⟨_, s, rfl, Intake.covers_fixed.mpr ⟨[e], .cons rfl .nil, rfl⟩⟩

/-- A run ends at the first entry with another tag, or at one without a value of the wanted kind. -/
theorem drainOnto_covers (isMember : Production → Bool) (extract : Node → Option α) (taken : List α)
    (s : ResultsStack) :
    match ResultsStack.drainOnto isMember extract taken s with
    | (.ok _, s') => s = (Intake.run isMember).members s ++ s'
    | (.error _, s') => s' <:+ s := by
  induction s generalizing taken with
  | nil => rfl
  | cons e s ih =>
    simp only [ResultsStack.drainOnto, Intake.members, Intake.run, List.takeWhile_cons]
    by_cases htag : isMember e.production = true
    · cases hvalue : extract e.node with
      | none =>
        simp only [htag, if_true]
        exact List.suffix_cons _ _
      | some a =>
        have hs := ih (a :: taken)
        simp only [htag, if_true]
        rcases hd : ResultsStack.drainOnto isMember extract (a :: taken) s with ⟨_ | values, s'⟩ <;>
          rw [hd] at hs
        · exact hs.trans (List.suffix_cons _ _)
        · exact congrArg (e :: ·) hs
    · simp [htag]

theorem takes_drainRun (isMember : Production → Bool) (extract : Node → Option α) :
    Takes (drainRun isMember extract) (.run isMember) := by
  intro s
  have hs := drainOnto_covers isMember extract [] s
  simp only [drainRun, ofStack, ResultsStack.drainRun]
  rcases hd : ResultsStack.drainOnto isMember extract [] s with ⟨_ | values, s'⟩ <;> rw [hd] at hs
  · exact hs
  · exact ⟨[], .nil, hs⟩

theorem takes_nonEmpty (production : Production) (members : List α) :
    Takes (nonEmpty production members) (.any 0) := by
  rw [nonEmpty]
  split
  · exact takes_fail _ _
  · exact takes_pure _

end Operations

/-! ### The work of a production -/

section Productions

variable {kit : Toolkit} {factory : TreeFactory} (token : SourceToken)

theorem takes_negatedIf (negated : Bool) (p : Predicate) :
    Takes (negatedIf factory negated p) (.any 0) := by
  cases negated with
  | true => exact takes_made _ _
  | false => exact takes_pure _

theorem takes_equalities (operand : Expression) (candidates : List Expression) :
    Takes (equalities factory operand candidates) (.any 0) := by
  induction candidates with
  | nil => exact takes_pure _
  | cons candidate candidates ih => exact (takes_made _ _).bind fun _ => ih.bind fun _ => takes_pure _

theorem takes_attachCrs (resolver : CrsResolver) (literal : GeometryLiteral) (srid : Int32) :
    Takes (attachCrs resolver literal srid token) (.any 0) := by
  rw [attachCrs]
  split
  · exact takes_pure _
  · exact takes_fail _ _

theorem takes_attachCode (resolver : CrsResolver) (literal : GeometryLiteral)
    (code : Option SourceToken) : Takes (attachCode resolver literal code) (.any 0) := by
  cases code with
  | none => exact takes_pure _
  | some code => exact (takes_orFind _ _).bind fun _ => takes_attachCrs _ _ _ _

theorem takes_orDegenerate (r : Except GeometryError α) : Takes (orDegenerate token r) (.any 0) := by
  cases r with
  | ok a => exact takes_pure _
  | error e => exact takes_fail _ _

theorem replaces_numberLiteral (production : Production) (n? : Option Number) :
    Replaces (numberLiteral production n? token) (.any 0) :=
  (takes_orFind _ _).replaces fun _ => replaces_push _ _ _

theorem replaces_number (production : Production) : Replaces (number production token) (.any 0) :=
  (takes_orFind _ _).replaces fun _ => replaces_push _ _ _

theorem replaces_negate : Replaces (negate token) (.any 1) :=
  (takes_popHolding _ _).replaces fun _ => (takes_orFind _ _).replaces fun _ => replaces_push _ _ _

theorem replaces_function :
    Replaces (function factory token) (Production.function.intake) :=
  (takes_drainRun _ _).replaces fun _ => (takes_popRaw _).replaces fun _ =>
    (takes_made _ _).replaces fun _ => replaces_push _ _ _

theorem replaces_connect (production : Production) (maker : TreeFactory.Maker)
    (make : Predicate → Predicate → Predicate) :
    Replaces (connect production maker make token) (.any 2) :=
  takes_popPredicate.replaces fun _ => takes_popPredicate.replaces fun _ =>
    (takes_made _ _).replaces fun _ => replaces_push _ _ _

theorem replaces_featureIds : Replaces (featureIds factory token) Production.featureIdPredicate.intake :=
  (takes_drainRun _ _).replaces fun _ => (takes_nonEmpty _ _).replaces fun _ =>
    (takes_made _ _).replaces fun _ => replaces_push _ _ _

theorem replaces_inList (production : Production) (negated : Bool) :
    Replaces (inList factory production negated token) Production.inPredicate.intake :=
  (takes_drainRun _ _).replaces fun _ => (takes_nonEmpty _ _).replaces fun _ =>
    takes_popExpression.replaces fun _ => (takes_equalities _ _).replaces fun _ =>
    (takes_made _ _).replaces fun _ => (takes_negatedIf _ _).replaces fun _ => replaces_push _ _ _

theorem replaces_isNull (production : Production) (negated : Bool) :
    Replaces (isNull factory production negated token) (.any 1) :=
  takes_popExpression.replaces fun _ => (takes_made _ _).replaces fun _ =>
    (takes_negatedIf _ _).replaces fun _ => replaces_push _ _ _

theorem replaces_like (production : Production) (ignoringCase negated : Bool) :
    Replaces (like factory production ignoringCase negated token) (.any 2) :=
  (takes_popHolding _ _).replaces fun _ => takes_popExpression.replaces fun _ =>
    (takes_made _ _).replaces fun _ => (takes_negatedIf _ _).replaces fun _ => replaces_push _ _ _

theorem replaces_between (production : Production) (negated : Bool) :
    Replaces (between factory production negated token) (.any 3) :=
  takes_popExpression.replaces fun _ => takes_popExpression.replaces fun _ =>
    takes_popExpression.replaces fun _ => (takes_made _ _).replaces fun _ =>
    (takes_negatedIf _ _).replaces fun _ => replaces_push _ _ _

theorem replaces_spatial (op : SpatialOp) (right : Expression) :
    Replaces (spatial factory op right token) (.any 1) :=
  takes_popExpression.replaces fun _ => (takes_made _ _).replaces fun _ => replaces_push _ _ _

theorem replaces_bbox (code : Option SourceToken) : Replaces (bbox kit token code) (.any 5) :=
  takes_popFloat.replaces fun _ => takes_popFloat.replaces fun _ => takes_popFloat.replaces fun _ =>
    takes_popFloat.replaces fun _ => (takes_attachCode _ _ _).replaces fun _ =>
    takes_popExpression.replaces fun _ => (takes_made _ _).replaces fun _ =>
    (takes_made _ _).replaces fun _ => replaces_push _ _ _

theorem replaces_distance (op : DistanceOp) (words : List SourceToken) :
    Replaces (distance factory op token words) (.any 3) := by
  cases words with
  | nil => exact replaces_fail _ _
  | cons word words =>
    rw [distance]
    generalize DistanceUnits.ofText? _ = units?
    exact (takes_orFind units? _).replaces fun _ => takes_popFloat.replaces fun _ =>
      takes_popExpression.replaces fun _ => takes_popExpression.replaces fun _ =>
      (takes_made _ _).replaces fun _ => replaces_push _ _ _

theorem replaces_relateWith (production : Production) (name : String)
    {more : Expression → Expression → Assembly (List Expression)}
    (hmore : ∀ left right, Takes (more left right) (.any 0)) :
    Replaces (relateWith factory production name more token) (.any 2) :=
  takes_popExpression.replaces fun _ => takes_popExpression.replaces fun _ =>
    (hmore _ _).replaces fun _ => (takes_made _ _).replaces fun _ => (takes_made _ _).replaces fun _ =>
    (takes_made _ _).replaces fun _ => replaces_push _ _ _

theorem replaces_relate : Replaces (relate factory token) (.any 2) :=
  replaces_relateWith _ _ _ fun _ _ => takes_pure _

theorem replaces_relatePattern :
    Replaces (relatePattern factory token) Production.relatePattern.intake :=
  (takes_popRaw _).replaces fun _ => replaces_relateWith _ _ _ fun _ _ =>
    (takes_made _ _).bind fun _ => takes_pure _

theorem replaces_de9imPattern : Replaces de9imPattern (.any 1) := by
  refine (takes_popHolding _ _).replaces fun (pattern, e) => ?_
  dsimp only
  split
  · exact replaces_push _ _ _
  · exact replaces_fail _ _

/-! ### The work of a geometry -/

theorem replaces_coordinate : Replaces (coordinate token) (.any 2) :=
  takes_popFloat.replaces fun _ => takes_popFloat.replaces fun _ => replaces_push _ _ _

theorem Takes.pushGeometry {work : Assembly Geometry} {i : Intake} (h : Takes work i)
    (production : Production) : Replaces (pushGeometry production token work) i := by
  have hpush : Replaces (Assembly.pushGeometry production token work) ⟨i.isMember, i.operands ++ []⟩ :=
    h.replaces fun g => replaces_push production (.geometry g) token
  rwa [List.append_nil] at hpush

theorem takes_lineString : Takes (lineString token) (.run (· == .coordinate)) :=
  (takes_drainRun _ _).bind fun _ => takes_orDegenerate _ _

theorem takes_polygon : Takes (polygon token) (.run (· == .lineStringText .ring)) := by
  refine (takes_drainRun _ _).bind fun rings => ?_
  cases rings with
  | nil => exact takes_fail _ _
  | cons shell holes => exact takes_orDegenerate _ _

theorem takes_nonEmpty_members (production : Production) (role : GeometryRole)
    (extract : Node → Option α) (make : List α → Geometry) :
    Takes (do return make (← nonEmpty production (← members role extract))) (.ofRole role) :=
  (takes_drainRun _ _).bind fun _ => (takes_nonEmpty _ _).bind fun _ => takes_pure _

theorem takes_collection :
    Takes (do
      let parts ← members .collectionMember Node.geometry?
      let _ ← popRaw .collectionStart
      return Geometry.collection parts) (Production.collectionText .root).intake :=
  (takes_drainRun _ _).bind fun _ => (takes_popRaw _).bind fun _ => takes_pure _

/-! ### The work of a geometry literal -/

theorem replaces_geometryLiteral : Replaces (geometryLiteral token) (.any 1) :=
  (takes_popAs _ _).replaces fun _ => replaces_push _ _ _

theorem takes_sridOf (e : Entry) : Takes (sridOf e) (.any 0) := by
  rw [sridOf]
  split
  · exact takes_pure _
  · exact takes_fail _ _
  · exact takes_fail _ _

theorem sridOf_of_ne {e : Entry} (h : e.production ≠ .srid) :
    sridOf e = failDefect (.mismatch "SRID" e.production) := by
  rw [sridOf]
  split
  · contradiction
  · contradiction
  · rfl

theorem replaces_srid {next : Entry → Int32 → Assembly Unit}
    (hnext : ∀ e n, Replaces (next e n) (.any 0)) :
    Replaces (do let e ← pop; let n ← sridOf e; next e n) (fixed [(· == .srid)]) := by
  intro s
  cases s with
  | nil => exact List.suffix_refl _
  | cons e s =>
    have hpop : (pop >>= fun e => sridOf e >>= next e) (e :: s) = (sridOf e >>= next e) s := by
      change Assembly.bind pop _ _ = _
      simp [Assembly.bind, pop, ofStack, ResultsStack.pop]
    by_cases htag : e.production = .srid
    · have hs := (takes_sridOf e).replaces (hnext e) s
      simp only [hpop]
      rcases hr : (sridOf e >>= next e) s with ⟨_ | u, s', notes⟩ <;> rw [hr] at hs
      · exact hs.trans (List.suffix_cons _ _)
      · obtain ⟨e', rest, rfl, hrest⟩ := hs
        obtain ⟨taken, hfits, rfl⟩ := Intake.covers_fixed.mp hrest
        have hfit : (e.production == .srid) = true := by simpa using htag
        exact ⟨e', rest, rfl, Intake.covers_fixed.mpr ⟨e :: taken, .cons hfit hfits, rfl⟩⟩
    · simp only [hpop, sridOf_of_ne htag]
      exact List.suffix_cons _ _

theorem replaces_sridGeometryLiteral (resolver : CrsResolver) :
    Replaces (sridGeometryLiteral resolver token) Production.sridGeometryLiteral.intake :=
  takes_popGeometryLiteral.replaces fun _ => replaces_srid fun _ _ =>
    (takes_attachCrs _ _ _ _).replaces fun _ => replaces_push _ _ _

theorem replaces_geometryLiteralWithSrid (resolver : CrsResolver) (more : List SourceToken) :
    Replaces (geometryLiteralWithSrid resolver token more) (.any 1) := by
  cases more with
  | nil => exact replaces_fail _ _
  | cons number more =>
    rw [geometryLiteralWithSrid]
    -- Nothing depends on what the text of the number is read as.
    generalize Decimal.readInt32? _ = srid?
    exact (takes_orFind _ _).replaces fun _ => takes_popGeometryLiteral.replaces fun _ =>
      (takes_attachCrs _ _ _ _).replaces fun _ => replaces_push _ _ _

theorem replaces_envelope (resolver : CrsResolver) (more : List SourceToken) :
    Replaces (envelope resolver token more) (.any 0) := by
  rw [envelope.eq_def]
  split
  · exact (takes_orFind _ _).replaces fun _ => (takes_orFind _ _).replaces fun _ =>
      (takes_orFind _ _).replaces fun _ => (takes_orFind _ _).replaces fun _ =>
      (takes_attachCode _ _ _).replaces fun _ => replaces_push _ _ _
  · exact replaces_fail _ _

end Productions

/-! ### A reduction -/

theorem replaces_baseStep (kit : Toolkit) (production : Production) (token : SourceToken)
    (more : List SourceToken) : Replaces (baseStep kit production token more) production.intake := by
  cases production with
  | propertyName => exact (takes_made _ _).replaces fun _ => replaces_push _ _ _
  | integerLiteral => exact replaces_numberLiteral _ _ _
  | floatingLiteral => exact replaces_numberLiteral _ _ _
  | negativeNumber => exact replaces_negate _
  | functionArgument => exact replaces_retag _
  | inListMember => exact replaces_retag _
  | function => exact replaces_function _
  | arithmetic op =>
    exact takes_popExpression.replaces fun _ => takes_popExpression.replaces fun _ =>
      (takes_made _ _).replaces fun _ => replaces_push _ _ _
  | comparison op =>
    exact takes_popExpression.replaces fun _ => takes_popExpression.replaces fun _ =>
      (takes_made _ _).replaces fun _ => replaces_push _ _ _
  | and => exact replaces_connect _ _ _ _
  | or => exact replaces_connect _ _ _ _
  | not =>
    exact takes_popPredicate.replaces fun _ => (takes_made _ _).replaces fun _ => replaces_push _ _ _
  | includeAll => exact (takes_made _ _).replaces fun _ => replaces_push _ _ _
  | excludeAll => exact (takes_made _ _).replaces fun _ => replaces_push _ _ _
  | featureIdPredicate => exact replaces_featureIds _
  | inPredicate => exact replaces_inList _ _ _
  | notInPredicate => exact replaces_inList _ _ _
  | isNull => exact replaces_isNull _ _ _
  | isNotNull => exact replaces_isNull _ _ _
  | like => exact replaces_like _ _ _ _
  | notLike => exact replaces_like _ _ _ _
  | ilike => exact replaces_like _ _ _ _
  | notILike => exact replaces_like _ _ _ _
  | between => exact replaces_between _ _ _
  | notBetween => exact replaces_between _ _ _
  | spatial op =>
    exact takes_popGeometryLiteral.replaces fun _ => (takes_made _ _).replaces fun _ =>
      replaces_spatial _ _ _
  | bbox => exact replaces_bbox _ _
  | distance op => exact replaces_distance _ _ _
  | relate => exact replaces_relate _
  | relatePattern => exact replaces_relatePattern _
  | de9imPattern => exact replaces_de9imPattern
  | ordinate => exact replaces_number _ _
  | srid => exact replaces_number _ _
  | envelopeComponent => exact replaces_number _ _
  | coordinate => exact replaces_coordinate _
  | pointText role =>
    exact ((takes_popAs _ _).bind fun _ => takes_pure _).pushGeometry _ _
  | lineStringText role => exact ((takes_lineString _).bind fun _ => takes_pure _).pushGeometry _ _
  | polygonText role => exact ((takes_polygon _).bind fun _ => takes_pure _).pushGeometry _ _
  | multiPointText role => exact (takes_nonEmpty_members _ _ _ _).pushGeometry _ _
  | multiLineStringText role => exact (takes_nonEmpty_members _ _ _ _).pushGeometry _ _
  | multiPolygonText role => exact (takes_nonEmpty_members _ _ _ _).pushGeometry _ _
  | collectionText role => exact takes_collection.pushGeometry _ _
  | geometryLiteral => exact replaces_geometryLiteral _
  | sridGeometryLiteral => exact replaces_sridGeometryLiteral _ _
  | envelope => exact (takes_discard _ _).replaces fun _ => replaces_envelope _ _ _
  | geometryLiteralWithSrid => exact replaces_fail _ _
  | _ => exact replaces_push _ _ _

theorem takes_remarkOnWord (op : ComparisonOp) (token : SourceToken) :
    Takes (remarkOnWord op token) (.any 0) := by
  rw [remarkOnWord]
  split
  · exact takes_note _
  · exact takes_pure _

theorem replaces_extendedStep (kit : Toolkit) (production : Production) (token : SourceToken)
    (more : List SourceToken) :
    Replaces (extendedStep kit production token more) (Dialect.ecql.intake production) := by
  rw [extendedStep.eq_def]
  split
  case h_1 op => exact takes_popExpression.replaces fun _ => replaces_spatial _ _ _
  case h_2 => exact replaces_envelope _ _ _
  case h_3 => exact replaces_geometryLiteralWithSrid _ _ _
  case h_4 op =>
    exact (takes_remarkOnWord op token).replaces fun _ =>
      replaces_baseStep kit (.comparison op) token more
  case h_5 hspatial henvelope hwith hcomparison =>
    rw [Dialect.intake_of_ne_envelope henvelope]
    exact replaces_baseStep kit production token more

theorem replaces_step (dialect : Dialect) (kit : Toolkit) (r : Reduction) :
    Replaces (step dialect kit r) (dialect.intake r.production) := by
  rw [step]
  split
  · cases r.tokens with
    | nil => exact replaces_fail _ _
    | cons token more =>
      cases dialect with
      | cql => exact replaces_baseStep kit r.production token more
      | ecql => exact replaces_extendedStep kit r.production token more
  · exact replaces_fail _ _

/-- **A reduction touches only the top of the results stack**, in either dialect and whatever waits there:
with success exactly one entry lies in the place of its intake, which was on top, and with failure some
entries are gone and none is new.  Neither what it takes nor how much it takes depends on anything beneath
the run and the operands of its production. -/
theorem step_intake (dialect : Dialect) (kit : Toolkit) (r : Reduction) (s : ResultsStack) :
    match step dialect kit r s with
    | ⟨.ok _, s', _⟩ =>
      (dialect.intake r.production).OnTop s ∧
        ∃ e, s' = e :: s.drop ((dialect.intake r.production).count s)
    | ⟨.error _, s', _⟩ => ∃ n, s' = s.drop n := by
  have hs := replaces_step dialect kit r s
  rcases h : step dialect kit r s with ⟨_ | u, s', notes⟩ <;> rw [h] at hs
  · exact ⟨_, List.suffix_iff_eq_drop.mp hs⟩
  · obtain ⟨e, rest, rfl, hcovers⟩ := hs
    obtain ⟨htop, hrest⟩ := hcovers.onTop
    exact ⟨htop, e, by rw [← hrest]⟩

end Assembly

end GeoFilter
