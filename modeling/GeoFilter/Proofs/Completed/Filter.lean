import GeoFilter.Proofs.Completed.Expression
import GeoFilter.Proofs.Framing.Filter
import GeoFilter.Proofs.Realization.Statement

/-!
# What filters and statements complete

Predicates complete rules at the places of their lexemes, and so do filters, with the levels as what the induction is on.
So the parts of a statement consist of completed rules, and where one is broken its fault is found at a lexeme or at the
end (`within_statementParts`).
-/

namespace GeoFilter

open Phrase (Completes)

variable {L : List Lexeme} (dialect : Dialect) (levels : Nat)

/-! ### Operands -/

theorem completes_operand : Completes L (Grammar.operand dialect levels) := by
  cases dialect with
  | cql => exact completes_propertyName
  | ecql => exact completes_expression _ _

theorem completes_geometryOperand : Completes L (Grammar.geometryOperand dialect levels) := by
  cases dialect with
  | ecql => exact completes_expression _ _
  | cql =>
    refine Phrase.Completes.peek.andThen fun token? => ?_
    split
    · exact completes_sridLiteral _ _
    · exact completes_envelope _
    · exact completes_geometryLiteral _
    · exact .unexpected _

/-! ### Predicates with a keyword -/

theorem completes_featureIds : Completes L Grammar.featureIds := by
  have hid : Completes L Grammar.featureId := (Phrase.Completes.expectIf _ _).bind fun _ hid => .reduceAt hid rfl
  exact (Phrase.Completes.next _).bind fun _ hkeyword =>
    (Phrase.Completes.parenthesized (.commaSeparated hid)).andThen fun _ => .reduceAt hkeyword rfl

theorem completes_spatial (op : SpatialOp) : Completes L (Grammar.spatial dialect levels op) :=
  (Phrase.Completes.next _).bind fun _ hkeyword => (Phrase.Completes.require _).andThen fun _ =>
    (completes_operand dialect levels).andThen fun _ => (Phrase.Completes.require _).andThen fun _ =>
    (completes_geometryOperand dialect levels).andThen fun _ => (Phrase.Completes.require _).andThen fun _ =>
    .reduceAt hkeyword rfl

theorem completes_commaBound : Completes L Grammar.commaBound :=
  (Phrase.Completes.require _).andThen fun _ => completes_signedLiteral

theorem completes_bbox : Completes L (Grammar.bbox dialect levels) :=
  (Phrase.Completes.next _).bind fun _ hkeyword => (Phrase.Completes.require _).andThen fun _ =>
    (completes_operand dialect levels).andThen fun _ => completes_commaBound.andThen fun _ =>
    completes_commaBound.andThen fun _ => completes_commaBound.andThen fun _ => completes_commaBound.andThen fun _ =>
    completes_referenceSystem.bind fun _ hcode => (Phrase.Completes.require _).andThen fun _ =>
    .reduce (List.forall_mem_cons.mpr ⟨hkeyword, hcode⟩) rfl

theorem placed_leadingWords {input : List Lexeme} (hinput : input <:+ L) :
    ∀ word ∈ (Grammar.leadingWords input).1, Placed L word := by
  induction input with
  | nil => exact List.forall_mem_nil _
  | cons l ls ih =>
    rw [Grammar.leadingWords]
    split
    · exact List.forall_mem_cons.mpr ⟨placed_head hinput, ih (suffix_of_cons hinput)⟩
    · exact List.forall_mem_nil _

theorem completes_unitWords : Completes L Grammar.unitWords fun words => ∀ word ∈ words, Placed L word := by
  intro input hinput
  have hwords := placed_leadingWords hinput
  have hrest := (leadingWords_suffix input).trans hinput
  unfold Grammar.unitWords
  split
  · exact Phrase.Completes.unexpected _ input hinput
  case h_2 hread =>
    rw [hread] at hwords hrest
    exact Phrase.Completes.within_ok hrest hwords

theorem completes_distance (op : DistanceOp) : Completes L (Grammar.distance dialect levels op) :=
  (Phrase.Completes.next _).bind fun _ hkeyword => (Phrase.Completes.require _).andThen fun _ =>
    (completes_operand dialect levels).andThen fun _ => (Phrase.Completes.require _).andThen fun _ =>
    (completes_geometryOperand dialect levels).andThen fun _ => (Phrase.Completes.require _).andThen fun _ =>
    completes_signedLiteral.andThen fun _ => (Phrase.Completes.require _).andThen fun _ =>
    completes_unitWords.bind fun _ hunits => (Phrase.Completes.require _).andThen fun _ =>
    .reduce (List.forall_mem_cons.mpr ⟨hkeyword, hunits⟩) rfl

/-! ### Patterns -/

theorem placed_barePattern {behind? : Option Place} {input : List Lexeme} {fault : SyntaxFault} (hinput : input <:+ L)
    (h : Grammar.barePattern behind? input = .error fault) : fault.IsPlaced L := by
  induction input generalizing behind? with
  | nil => cases h
  | cons l ls ih =>
    rw [Grammar.barePattern] at h
    split at h
    · cases h
    · split at h
      · cases h
        exact placed_head hinput
      · split at h
        case h_1 => cases h
        case h_2 hread =>
          cases h
          exact ih (suffix_of_cons hinput) hread

theorem completes_de9imPattern : Completes L Grammar.de9imPattern (Placed L) := by
  rw [de9imPattern_eq]
  refine (Phrase.Completes.acceptIf _).bind fun quoted? hquoted => ?_
  cases quoted? with
  | some pattern => exact .pure (hquoted pattern rfl)
  | none =>
    refine (Phrase.Completes.here _).bind fun start hstart input hinput => ?_
    unfold barePatternAt
    split
    case h_1 hread => exact Phrase.Completes.within_error (placed_barePattern hinput hread)
    case h_2 hread =>
      have hrest := (barePattern_suffix hread).trans hinput
      split
      · exact Phrase.Completes.unexpected _ _ hrest
      · exact Phrase.Completes.within_ok hrest hstart

theorem completes_relate : Completes L (Grammar.relate dialect levels) := by
  refine (Phrase.Completes.next _).bind fun keyword hkeyword => (Phrase.Completes.require _).andThen fun _ => ?_
  refine (completes_operand dialect levels).andThen fun _ => (Phrase.Completes.require _).andThen fun _ => ?_
  refine (completes_geometryOperand dialect levels).andThen fun _ => (Phrase.Completes.accept _).andThen fun comma? => ?_
  cases comma? with
  | some comma =>
    exact completes_de9imPattern.bind fun _ hpattern => (Phrase.Completes.reduceAt hpattern rfl).andThen fun _ =>
      (Phrase.Completes.reduceAt hpattern rfl).andThen fun _ => (Phrase.Completes.require _).andThen fun _ =>
      .reduceAt hkeyword rfl
  | none => exact (Phrase.Completes.require _).andThen fun _ => .reduceAt hkeyword rfl

/-! ### Tests of a value -/

section Tests

variable {production : Production} {token : SourceToken} (htoken : Placed L token)

include htoken

theorem completes_inList (hplain : production.isPlain = true) :
    Completes L (Grammar.inList dialect levels production token) := by
  have hmember : Completes L (Grammar.listMember dialect levels) :=
    (Phrase.Completes.here _).bind fun _ hmember =>
      (completes_expression dialect levels).andThen fun _ => .reduceAt hmember rfl
  exact (Phrase.Completes.parenthesized (.commaSeparated hmember)).andThen fun _ => .reduceAt htoken hplain

theorem completes_like (hplain : production.isPlain = true) : Completes L (Grammar.like production token) :=
  (Phrase.Completes.expectIf _ _).bind fun _ hpattern => (Phrase.Completes.reduceAt hpattern rfl).andThen fun _ =>
    .reduceAt htoken hplain

theorem completes_between (hplain : production.isPlain = true) :
    Completes L (Grammar.between dialect levels production token) :=
  (completes_expression dialect levels).andThen fun _ => (Phrase.Completes.expectWord _).andThen fun _ =>
    (completes_expression dialect levels).andThen fun _ => .reduceAt htoken hplain

theorem completes_isNull : Completes L (Grammar.isNull token) :=
  (Phrase.Completes.acceptWord _).andThen fun not? => (Phrase.Completes.expectWord _).andThen fun _ =>
    .reduceAt htoken (by cases not? <;> rfl)

theorem completes_negatedTest : Completes L (Grammar.negatedTest dialect levels token) := by
  refine Phrase.Completes.peek.andThen fun token? => ?_
  split
  · exact (Phrase.Completes.next _).andThen fun _ => completes_inList dialect levels htoken rfl
  · exact (Phrase.Completes.next _).andThen fun _ => completes_like htoken rfl
  · exact (Phrase.Completes.next _).andThen fun _ => completes_like htoken rfl
  · exact (Phrase.Completes.next _).andThen fun _ => completes_between dialect levels htoken rfl
  · exact .unexpected _

end Tests

theorem completes_keywordTest (keyword? : Option Keyword) :
    Completes L (Grammar.keywordTest dialect levels keyword?) := by
  unfold Grammar.keywordTest
  dsimp only
  split
  · exact (Phrase.Completes.next _).bind fun _ htoken => completes_negatedTest dialect levels htoken
  · exact (Phrase.Completes.next _).bind fun _ htoken => completes_inList dialect levels htoken rfl
  · exact (Phrase.Completes.next _).bind fun _ htoken => completes_like htoken rfl
  · exact (Phrase.Completes.next _).bind fun _ htoken => completes_like htoken rfl
  · exact (Phrase.Completes.next _).bind fun _ htoken => completes_between dialect levels htoken rfl
  · exact (Phrase.Completes.next _).bind fun _ htoken => completes_isNull htoken
  · exact .unexpected _

theorem completes_valueTest : Completes L (Grammar.valueTest dialect levels) := by
  refine (completes_operand dialect levels).andThen fun _ => Phrase.Completes.peek.andThen fun token? => ?_
  cases token? with
  | none => exact .unexpected _
  | some token =>
    dsimp only
    split
    · exact (Phrase.Completes.next _).bind fun _ hoperator =>
        (completes_expression dialect levels).andThen fun _ => .reduceAt hoperator rfl
    · exact completes_keywordTest dialect levels _

theorem completes_simplePredicate (keyword? : Option Keyword) (called : Bool) :
    Completes L (Grammar.simplePredicate dialect levels keyword? called) := by
  unfold Grammar.simplePredicate
  split
  · exact (Phrase.Completes.next _).bind fun _ htoken => .reduceAt htoken rfl
  · exact (Phrase.Completes.next _).bind fun _ htoken => .reduceAt htoken rfl
  · exact completes_spatial dialect levels _
  · exact completes_featureIds
  · cases dialect with
    | ecql => exact completes_featureIds
    | cql => exact completes_valueTest _ levels
  · exact completes_bbox dialect levels
  · exact completes_distance dialect levels _
  · exact completes_distance dialect levels _
  · exact completes_relate dialect levels
  · exact completes_valueTest dialect levels

/-! ### Combinations -/

theorem completes_joined {word : String} {production : Production} (hplain : production.isPlain = true)
    {phrase : Phrase Unit} (h : Completes L phrase) : Completes L (Grammar.joined word production phrase) :=
  h.andThen fun _ => .repeatAfter (.acceptWord _) fun _ htoken => h.andThen fun _ => .reduceAt htoken hplain

theorem completes_disjunctionOf {negation : Phrase Unit} (h : Completes L negation) :
    Completes L (Grammar.disjunctionOf negation) :=
  completes_joined rfl (completes_joined rfl h)

theorem completes_primary {group? : Option (Phrase Unit)} (hgroup : ∀ group ∈ group?, Completes L group) :
    Completes L (Grammar.primary dialect levels group?) := by
  refine Phrase.Completes.peek.andThen fun token? => ?_
  cases token? with
  | none => exact .unexpected _
  | some token =>
    dsimp only
    split
    · exact (Phrase.Completes.next _).bind fun _ hopener =>
        (Phrase.Completes.nested hgroup hopener).andThen fun _ => .require _
    · exact (Phrase.Completes.peekSecond.andThen fun _ => .done).andThen fun called =>
        completes_simplePredicate dialect levels _ called

theorem completes_negationWith {inner? : Option (Phrase Unit)} (hinner : ∀ inner ∈ inner?, Completes L inner) :
    Completes L (Grammar.negationWith dialect levels inner?) := by
  refine (Phrase.Completes.acceptWord _).bind fun token? htoken => ?_
  cases token? with
  | some token =>
    have htoken := htoken token rfl
    exact (Phrase.Completes.nested hinner htoken).andThen fun _ => .reduceAt htoken rfl
  | none =>
    refine completes_primary dialect levels fun group hgroup => ?_
    obtain ⟨inner, hmem, rfl⟩ := Option.map_eq_some_iff.mp hgroup
    exact completes_disjunctionOf (hinner inner hmem)

theorem completes_negation : Completes L (Grammar.negation dialect levels) := by
  induction levels with
  | zero => exact completes_negationWith dialect 0 (by simp)
  | succ levels ih =>
    exact completes_negationWith dialect (levels + 1) fun inner hinner => by
      cases hinner
      exact ih

theorem completes_filter : Completes L (Grammar.filter dialect levels) :=
  completes_disjunctionOf (completes_negation dialect levels)

/-! ### Statements -/

def StatementPart.fault? : StatementPart → Option SyntaxFault
  | .whole _ => none
  | .broken _ fault => some fault

/-- A part of completed rules, with a fault at one of the lexemes if it is broken. -/
structure StatementPart.Within (L : List Lexeme) (part : StatementPart) : Prop where
  reductions : Completed L part.reductions
  fault : ∀ fault ∈ part.fault?, fault.IsPlaced L

theorem Reading.Within.toPart {Q : α → Prop} {r : Reading α} (h : r.Within L Q) : r.toPart.Within L := by
  refine ⟨reductions_toPart r ▸ h.reductions, fun fault hfault => ?_⟩
  unfold Reading.toPart at hfault
  split at hfault <;> cases hfault
  exact h.fault fault (by assumption)

theorem completes_toEnd {phrase : Phrase Unit} (h : Completes L phrase) : Completes L (Grammar.toEnd phrase) := by
  refine h.andThen fun _ => ?_
  rintro (_ | ⟨l, rest⟩) hinput
  · exact Phrase.Completes.within_ok hinput trivial
  · exact Phrase.Completes.within_error (placed_head hinput)

theorem within_filterList {fuel : Nat} {input : List Lexeme} (hinput : input <:+ L) :
    ∀ part ∈ Grammar.filterList dialect fuel input, part.Within L := by
  induction fuel generalizing input with
  | zero => exact List.forall_mem_nil _
  | succ fuel ih =>
    have hfilter := (completes_filter dialect maxNesting) input hinput
    rw [Grammar.filterList]
    rcases hread : Grammar.filter dialect maxNesting input with ⟨done, fault | ⟨a, rest⟩⟩ <;>
      rw [hread] at hfilter
    · exact List.forall_mem_singleton.mpr hfilter.toPart
    · have hrest := (hfilter.value a rest rfl).1
      refine List.forall_mem_cons.mpr ⟨hfilter.toPart, ?_⟩
      cases rest with
      | nil => exact List.forall_mem_nil _
      | cons l rest =>
        dsimp only
        split
        · split
          · exact List.forall_mem_nil _
          · exact ih (suffix_of_cons hrest)
        · refine List.forall_mem_singleton.mpr ⟨.nil, fun fault hfault => ?_⟩
          cases hfault
          exact placed_head hrest

theorem within_statementParts (entry : EntryPoint) :
    ∀ part ∈ Grammar.statementParts dialect L entry, part.Within L := by
  cases entry with
  | filter =>
    exact List.forall_mem_singleton.mpr
      (completes_toEnd (completes_filter dialect maxNesting) L List.suffix_rfl).toPart
  | expression =>
    exact List.forall_mem_singleton.mpr
      (completes_toEnd (completes_expression dialect maxNesting) L List.suffix_rfl).toPart
  | list => exact within_filterList dialect List.suffix_rfl

end GeoFilter
