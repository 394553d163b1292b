import GeoFilter.Stack
import Mathlib.Data.List.Forall2

/-!
# Runs on the results stack

`drainRun` takes a run of entries by their tags alone, so a run is taken whole and nothing beside it if
every entry of the run has a fitting tag and the entry beneath it, if there is one, has none (`TopFree`).
On any stack the run that is taken is the one on top (`topRun`), with the stack beneath it left
(`beneathRun`), or the topmost entry of that run which gives no value is taken off and named.
Tags of which no entry may wait beneath a run of the same tag are `isLoose`; a stack with no such entry on
top is `Settled`, and whole filters, expressions and geometries keep it so.
-/

namespace GeoFilter

namespace Production

/-- The tags of members that are taken off the stack by their tags alone, with neither a mark nor an
operand beneath them. -/
def isLoose : Production → Bool
  | featureId => true
  | coordinate => true
  | lineStringText .ring => true
  | p => [some .multiPointMember, some .multiLineStringMember, some .multiPolygonMember].contains p.role?

def isOperand : Production → Bool
  | propertyName | integerLiteral | floatingLiteral | stringLiteral | booleanLiteral | function
  | arithmetic _ | geometryLiteral | sridGeometryLiteral | geometryLiteralWithSrid | envelope => true
  | _ => false

theorem isLoose_of_isOperand {p : Production} (h : p.isOperand = true) : p.isLoose = false := by
  cases p <;> first | rfl | cases h

theorem ne_inListMember_of_isOperand {p : Production} (h : p.isOperand = true) : p ≠ inListMember := by
  rintro rfl
  cases h

end Production

namespace ResultsStack

/-- Whether the entry on top, if there is one, has none of the given tags. -/
def TopFree (isMember : Production → Bool) (s : ResultsStack) : Prop :=
  ∀ e ∈ s.head?, isMember e.production = false

/-- Whether the entry on top, if there is one, is no loose member of a run. -/
def Settled (s : ResultsStack) : Prop :=
  s.TopFree Production.isLoose

variable {isMember : Production → Bool} {extract : Node → Option α} {s : ResultsStack}

theorem topFree_nil : TopFree isMember [] := by
  simp [TopFree]

theorem topFree_cons {e : Entry} : TopFree isMember (e :: s) ↔ isMember e.production = false := by
  simp [TopFree]

theorem settled_nil : Settled [] := topFree_nil

theorem settled_cons {e : Entry} : Settled (e :: s) ↔ e.production.isLoose = false := topFree_cons

theorem TopFree.mono {isPart : Production → Bool} (h : TopFree isMember s)
    (hpart : ∀ p, isPart p = true → isMember p = true) : TopFree isPart s := by
  intro e he
  have hfree := h e he
  cases hp : isPart e.production with
  | false => rfl
  | true => rw [hpart _ hp] at hfree; cases hfree

def IsMember (isMember : Production → Bool) (extract : Node → Option α) (a : α) (e : Entry) : Prop :=
  isMember e.production = true ∧ extract e.node = some a

/-! ### Taking a run -/

theorem drainOnto_members {run : List Entry} {values taken : List α}
    (hrun : List.Forall₂ (IsMember isMember extract) values run) (s : ResultsStack) :
    drainOnto isMember extract taken (run ++ s) = drainOnto isMember extract (values.reverse ++ taken) s := by
  induction hrun generalizing taken with
  | nil => rfl
  | @cons a e values run he _ ih =>
    obtain ⟨htag, hvalue⟩ := he
    rw [List.cons_append, drainOnto, if_pos htag, hvalue, List.reverse_cons, List.append_assoc]
    exact ih

theorem drainOnto_topFree {taken : List α} (hs : TopFree isMember s) :
    drainOnto isMember extract taken s = (.ok taken, s) := by
  cases s with
  | nil => rfl
  | cons e s =>
    rw [drainOnto, topFree_cons.mp hs]
    rfl

/-- A run comes off whole, in the order in which it was pushed, and nothing else does. -/
theorem drainRun_run {run : List Entry} {values : List α}
    (hrun : List.Forall₂ (IsMember isMember extract) values run) (hs : TopFree isMember s) :
    drainRun isMember extract (run.reverse ++ s) = (.ok values, s) := by
  rw [drainRun, drainOnto_members (List.forall₂_reverse_iff.mpr hrun), drainOnto_topFree hs]
  simp

/-- The entry of a run on top of which every entry has a value, and which has none itself, is the last one to be
taken. -/
theorem drainRun_rejected {late : List Entry} {e : Entry} {values : List α}
    (hlate : List.Forall₂ (IsMember isMember extract) values late) (htag : isMember e.production = true)
    (hrejected : extract e.node = none) :
    drainRun isMember extract (late.reverse ++ e :: s) = (.error (.mismatch "run member" e.production), s) := by
  rw [drainRun, drainOnto_members (List.forall₂_reverse_iff.mpr hlate), drainOnto, if_pos htag, hrejected]

/-! ### The run on top of a stack -/

/-- The longest run of entries on top whose tags match, in the order in which they were pushed. -/
def topRun (isMember : Production → Bool) (s : ResultsStack) : List Entry :=
  (s.takeWhile fun e => isMember e.production).reverse

def beneathRun (isMember : Production → Bool) (s : ResultsStack) : ResultsStack :=
  s.dropWhile fun e => isMember e.production

theorem topRun_append_beneathRun (isMember : Production → Bool) (s : ResultsStack) :
    (s.topRun isMember).reverse ++ s.beneathRun isMember = s := by
  rw [topRun, beneathRun, List.reverse_reverse, List.takeWhile_append_dropWhile]

theorem isMember_of_mem_topRun {e : Entry} (h : e ∈ s.topRun isMember) : isMember e.production = true :=
  List.all_eq_true.mp List.all_takeWhile e (List.mem_reverse.mp h)

theorem topFree_beneathRun (isMember : Production → Bool) (s : ResultsStack) :
    (s.beneathRun isMember).TopFree isMember := by
  intro e he
  have hhead := List.head?_dropWhile_not (fun e : Entry => isMember e.production) s
  rw [beneathRun] at he
  rw [Option.mem_def.mp he] at hhead
  simpa using hhead

theorem exists_values {run : List Entry} (h : ∀ e ∈ run, (extract e.node).isSome) :
    ∃ values, List.Forall₂ (fun a e => extract e.node = some a) values run := by
  induction run with
  | nil => exact ⟨[], .nil⟩
  | cons e run ih =>
    obtain ⟨he, hrun⟩ := List.forall_mem_cons.mp h
    obtain ⟨a, ha⟩ := Option.isSome_iff_exists.mp he
    obtain ⟨values, hvalues⟩ := ih hrun
    exact ⟨a :: values, .cons ha hvalues⟩

theorem exists_last_rejected {run : List Entry} (h : ¬∀ e ∈ run, (extract e.node).isSome) :
    ∃ early e late, run = early ++ e :: late ∧ extract e.node = none ∧ ∀ x ∈ late, (extract x.node).isSome := by
  cases hlast : run.reverse.find? fun e => (extract e.node).isNone with
  | none =>
    rw [List.find?_eq_none] at hlast
    refine absurd (fun e he => ?_) h
    simpa [← Option.isSome_iff_ne_none] using hlast e (List.mem_reverse.mpr he)
  | some e =>
    obtain ⟨hrejected, late, early, hrun, hlate⟩ := List.find?_eq_some_iff_append.mp hlast
    refine ⟨early.reverse, e, late.reverse, ?_, Option.isNone_iff_eq_none.mp hrejected, fun x hx => ?_⟩
    · simpa using congrArg List.reverse hrun
    · simpa using hlate x (List.mem_reverse.mp hx)

theorem forall₂_isMember {run : List Entry} {values : List α} (htags : ∀ e ∈ run, isMember e.production = true)
    (hvalues : List.Forall₂ (fun a e => extract e.node = some a) values run) :
    List.Forall₂ (IsMember isMember extract) values run := by
  induction hvalues with
  | nil => exact .nil
  | cons hvalue _ ih =>
    obtain ⟨htag, htags⟩ := List.forall_mem_cons.mp htags
    exact .cons ⟨htag, hvalue⟩ (ih htags)

theorem drainRun_of_values {values : List α}
    (hvalues : List.Forall₂ (fun a e => extract e.node = some a) values (s.topRun isMember)) :
    drainRun isMember extract s = (.ok values, s.beneathRun isMember) := by
  have hrun := forall₂_isMember (fun _ => isMember_of_mem_topRun) hvalues
  conv_lhs => rw [← s.topRun_append_beneathRun isMember]
  exact drainRun_run hrun (s.topFree_beneathRun isMember)

theorem drainRun_of_rejected {early late : List Entry} {e : Entry} {values : List α}
    (hrun : s.topRun isMember = early ++ e :: late) (hrejected : extract e.node = none)
    (hvalues : List.Forall₂ (fun a e => extract e.node = some a) values late) :
    drainRun isMember extract s =
      (.error (.mismatch "run member" e.production), early.reverse ++ s.beneathRun isMember) := by
  have htags : ∀ x ∈ e :: late, isMember x.production = true := by
    intro x hx
    exact isMember_of_mem_topRun (hrun ▸ List.mem_append_right early hx)
  obtain ⟨htag, htags⟩ := List.forall_mem_cons.mp htags
  have hstack : late.reverse ++ e :: (early.reverse ++ s.beneathRun isMember) = s := by
    conv_rhs => rw [← s.topRun_append_beneathRun isMember, hrun]
    simp
  conv_lhs => rw [← hstack]
  exact drainRun_rejected (forall₂_isMember htags hvalues) htag hrejected

/-- **What is taken is the run on top.**  If every entry of the longest run on top whose tags match has a value, these
values come in the order in which the entries were pushed, and what is beneath the run is left.  If not, the answer
names the tag of the topmost entry of the run that has no value, and everything beneath that entry is left. -/
theorem drainRun_takes_topRun (isMember : Production → Bool) (extract : Node → Option α) (s : ResultsStack) :
    ((∀ e ∈ s.topRun isMember, (extract e.node).isSome) →
      ∃ values, List.Forall₂ (fun a e => extract e.node = some a) values (s.topRun isMember) ∧
        drainRun isMember extract s = (.ok values, s.beneathRun isMember)) ∧
    ((¬∀ e ∈ s.topRun isMember, (extract e.node).isSome) →
      ∃ early e late, s.topRun isMember = early ++ e :: late ∧ extract e.node = none ∧
        (∀ x ∈ late, (extract x.node).isSome) ∧
        drainRun isMember extract s =
          (.error (.mismatch "run member" e.production), early.reverse ++ s.beneathRun isMember)) := by
  constructor
  · intro haccepted
    obtain ⟨values, hvalues⟩ := exists_values haccepted
    exact ⟨values, hvalues, drainRun_of_values hvalues⟩
  · intro hrejected
    obtain ⟨early, e, late, hrun, he, hlate⟩ := exists_last_rejected hrejected
    obtain ⟨values, hvalues⟩ := exists_values hlate
    exact ⟨early, e, late, hrun, he, hlate, drainRun_of_rejected hrun he hvalues⟩

theorem drainRun_takes_topRun_identifiers :
    let isId : Production → Bool := (· == .featureId)
    let entry (production : Production) (node : Node) : Entry := ⟨production, node, ⟨"ID", Place.start⟩⟩
    let name := entry .propertyName (.raw "name")
    let first := entry .featureId (.raw "a")
    let number := entry .featureId (.number (.integer 7))
    let last := entry .featureId (.raw "b")
    ((∀ e ∈ topRun isId [last, first, name], e.node.raw?.isSome) ∧
      drainRun isId Node.raw? [last, first, name] = (.ok ["a", "b"], [name])) ∧
    (¬∀ e ∈ topRun isId [last, number, first, name], e.node.raw?.isSome) ∧
      drainRun isId Node.raw? [last, number, first, name] =
        (.error (.mismatch "run member" .featureId), [first, name]) := by
  intro isId entry name first number last
  have haccepted : ∀ e ∈ topRun isId [last, first, name], e.node.raw?.isSome := by decide
  have hrejected : ¬∀ e ∈ topRun isId [last, number, first, name], e.node.raw?.isSome := by decide
  refine ⟨⟨haccepted, ?_⟩, hrejected, ?_⟩
  · obtain ⟨values, hvalues, htaken⟩ := (drainRun_takes_topRun isId Node.raw? [last, first, name]).1 haccepted
    have hrun : topRun isId [last, first, name] = [first, last] := rfl
    rw [hrun] at hvalues
    obtain _ | ⟨⟨⟩, _ | ⟨⟨⟩, _ | _⟩⟩ := hvalues
    exact htaken
  · obtain ⟨early, e, late, hrun, he, -, hstopped⟩ :=
      (drainRun_takes_topRun isId Node.raw? [last, number, first, name]).2 hrejected
    have hmembers : [first, number, last] = early ++ e :: late := hrun
    -- the number is the only entry without a text
    obtain _ | ⟨x, _ | ⟨y, early⟩⟩ := early
    · cases hmembers
      cases he
    · cases hmembers
      exact hstopped
    · obtain _ | ⟨z, early⟩ := early
      · cases hmembers
        cases he
      · simp at hmembers

end ResultsStack

end GeoFilter
