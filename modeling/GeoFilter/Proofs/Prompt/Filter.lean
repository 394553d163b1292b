import GeoFilter.Proofs.Framing.Filter
import GeoFilter.Proofs.Prompt.Expression

/-!
# Faults in filters

Filters are prompt, and so are the predicates that they are made of.  Only units and patterns without quotes are read by
lexemes of their own, up to the first one that does not belong to them.
-/

namespace GeoFilter

open Translation (read read_of_ok read_eq_ok)

variable {u : Setting}

/-! ### Findings -/

theorem distant_not_syntactic {factory : TreeFactory} {op : DistanceOp} {left right : Expression} {d : Number}
    {word : SourceToken} {words : List SourceToken} (finding : Finding)
    (h : distant factory op left right d word words = .error finding) : finding.fault.isSyntactic = false := by
  unfold distant at h
  dsimp only at h
  split at h <;> cases h
  rfl

theorem boxed_not_syntactic {kit : Toolkit} {left : Expression} {minX minY maxX maxY : Number}
    {code : Option SourceToken} (finding : Finding) (h : boxed kit left minX minY maxX maxY code = .error finding) :
    finding.fault.isSyntactic = false := by
  unfold boxed at h
  split at h
  · cases h
  case h_2 hcode =>
    cases h
    exact qualifiedByCode_not_syntactic finding hcode

theorem de9imOf_not_syntactic {pattern : SourceToken} (finding : Finding) (h : de9imOf pattern = .error finding) :
    finding.fault.isSyntactic = false := by
  unfold de9imOf at h
  split at h <;> cases h
  rfl

/-! ### Words -/

theorem prompt_unitWords : Prompt [] (read Grammar.unitWords) where
  toSteady := .of_framed solid_unitWords.toFramed
  faults := by
    rintro (_ | ⟨l, ls⟩) fault h
    · cases h
      exact .inl ⟨_, rfl⟩
    · unfold Translation.read at h
      rw [unitWords_cons] at h
      by_cases hword : Grammar.isAnyWord l.token = true
      · rw [if_pos hword] at h
        cases h
      · rw [if_neg hword] at h
        cases h
        refine .inr ⟨[], l, ls, rfl, .unexpected _, fun y _ input' hbegins => ?_⟩
        obtain ⟨tail', rfl⟩ := hbegins
        show (Grammar.unitWords (l :: y :: tail')).outcome.mapError Stop.fault = _
        rw [unitWords_cons, if_neg hword]
        rfl
  findings _ _ := Prompt.read_ne_finding

/-! ### Patterns -/

theorem barePattern_eq_error {behind? : Option Place} {input : List Lexeme} {f : SyntaxFault}
    (h : Grammar.barePattern behind? input = .error f) :
    ∃ done x rest, input = done ++ x :: rest ∧ f.At x.source ∧
      ∀ tail, Grammar.barePattern behind? (done ++ x :: tail) = .error f := by
  induction input generalizing behind? with
  | nil => cases h
  | cons l input ih =>
    rw [Grammar.barePattern] at h
    by_cases hstop : l.token = .sign .comma ∨ l.token = .sign .rightParen
    · rw [if_pos hstop] at h
      cases h
    rw [if_neg hstop] at h
    by_cases happart : behind?.any (· ≠ l.place) = true
    · rw [if_pos happart] at h
      cases h
      refine ⟨[], l, input, rfl, .unexpected _, fun tail => ?_⟩
      rw [List.nil_append, Grammar.barePattern, if_neg hstop, if_pos happart]
    · rw [if_neg happart] at h
      split at h
      case h_1 => cases h
      case h_2 hread =>
        cases h
        obtain ⟨done, x, rest, rfl, hat, hsame⟩ := ih hread
        refine ⟨l :: done, x, rest, rfl, hat, fun tail => ?_⟩
        rw [List.cons_append, Grammar.barePattern, if_neg hstop, if_neg happart, hsame tail]

theorem prompt_barePatternAt (start : SourceToken) : Prompt [] (read (barePatternAt start)) where
  suffix := suffix_read (shortens_barePatternAt start)
  keeps := by
    intro input rest tail tail' pattern htwo h
    obtain ⟨text, hread, hempty, rfl⟩ := barePatternAt_eq_ok (read_eq_ok h)
    obtain ⟨taken, htaken⟩ := barePattern_suffix hread
    obtain rfl : taken ++ rest = input := List.append_cancel_right (by rw [List.append_assoc, htaken])
    rw [List.append_assoc] at hread ⊢
    rcases rest with _ | ⟨x, _ | ⟨y, more⟩⟩
    · exact absurd htwo (by decide)
    · exact absurd htwo (by simp)
    · exact barePatternAt_of_ok (barePattern_frame (.heads x y _ _) hread) hempty
  faults := by
    intro input fault h
    unfold Translation.read barePatternAt at h
    cases hread : Grammar.barePattern none input with
    | error f =>
      rw [hread] at h
      cases h
      obtain ⟨done, x, rest, rfl, hat, hsame⟩ := barePattern_eq_error hread
      refine .inr ⟨done, x, rest, rfl, hat, fun y _ input' hbegins => ?_⟩
      obtain ⟨tail', rfl⟩ := hbegins
      have hsame' := hsame (y :: tail')
      simp only [Translation.read, barePatternAt, List.append_assoc, List.cons_append, List.nil_append, hsame']
      rfl
    | ok value =>
      obtain ⟨text, rest⟩ := value
      rw [hread] at h
      dsimp only at h
      by_cases hempty : text = ""
      · subst hempty
        rw [if_pos rfl] at h
        obtain ⟨taken, rfl⟩ := barePattern_suffix hread
        rcases rest with _ | ⟨x, rest⟩
        · cases h
          exact .inl ⟨_, rfl⟩
        · cases h
          refine .inr ⟨taken, x, rest, rfl, .unexpected _, fun y hy input' hbegins => ?_⟩
          obtain ⟨more, rfl⟩ := List.head?_eq_some_iff.mp hy
          obtain ⟨tail', rfl⟩ := hbegins
          have hsame := barePattern_frame (.heads x y more tail') hread
          simp only [List.append_assoc, List.cons_append, List.nil_append]
          simp only [Translation.read, barePatternAt, hsame]
          rfl
      · rw [if_neg hempty] at h
        cases h
  findings _ _ := Prompt.read_ne_finding

theorem prompt_de9imPattern : Prompt [] (read Grammar.de9imPattern) := by
  rw [de9imPattern_eq, Translation.read_phrase_bind]
  refine (Prompt.acceptIf _).bind fun quoted? => ?_
  cases quoted? with
  | some pattern => exact .pure pattern
  | none =>
    dsimp only
    rw [Translation.read_phrase_bind]
    exact (Prompt.here _).bind fun start => prompt_barePatternAt start

/-! ### Spatial predicates -/

theorem prompt_operand (levels : Nat) : Prompt [] (Translation.operand u levels) := by
  unfold Translation.operand
  cases u.dialect with
  | cql => exact prompt_propertyName
  | ecql => exact prompt_expression levels

theorem prompt_geometryOperand (levels : Nat) : Prompt [] (Translation.geometryOperand u levels) := by
  unfold Translation.geometryOperand
  cases u.dialect with
  | ecql => exact prompt_expression levels
  | cql =>
    refine Prompt.peek.bind fun token? => ?_
    split
    · exact (prompt_sridLiteral levels).map _
    · exact prompt_envelope.map _
    · exact (prompt_geometryLiteral levels).map _
    · exact .unexpected _

theorem prompt_featureId : Prompt [] (Translation.featureId u) :=
  (Prompt.expectIf _ _).bind fun _ => .complete_ok _ _ _

theorem prompt_featureIds : Prompt [] (Translation.featureIds u) :=
  (Prompt.next _).bind fun _ => prompt_featureId.commaSeparated.parenthesized.bind fun _ => .complete_ok _ _ _

theorem prompt_spatial (levels : Nat) (op : SpatialOp) : Prompt [] (Translation.spatial u levels op) :=
  (Prompt.next _).bind fun _ => (Prompt.require _).bind fun _ => (prompt_operand levels).bind fun _ =>
    (Prompt.require _).bind fun _ => (prompt_geometryOperand levels).bind fun _ => (Prompt.require _).bind fun _ =>
      .complete_ok _ _ _

theorem prompt_commaBound : Prompt [] (Translation.commaBound u) :=
  (Prompt.require _).bind fun _ => prompt_signedLiteral

theorem prompt_bbox (levels : Nat) : Prompt [] (Translation.bbox u levels) :=
  (Prompt.next _).bind fun _ => (Prompt.require _).bind fun _ => (prompt_operand levels).bind fun _ =>
    prompt_commaBound.bind fun _ => prompt_commaBound.bind fun _ => prompt_commaBound.bind fun _ =>
      prompt_commaBound.bind fun _ => prompt_referenceSystem.bind fun _ => (Prompt.require _).bind fun _ =>
        .complete _ _ boxed_not_syntactic

theorem prompt_distance (levels : Nat) (op : DistanceOp) : Prompt [] (Translation.distance u levels op) :=
  (Prompt.next _).bind fun _ => (Prompt.require _).bind fun _ => (prompt_operand levels).bind fun _ =>
    (Prompt.require _).bind fun _ => (prompt_geometryOperand levels).bind fun _ => (Prompt.require _).bind fun _ =>
      prompt_signedLiteral.bind fun _ => (Prompt.require _).bind fun _ => prompt_unitWords.bind fun _ =>
        (Prompt.require _).bind fun _ => .complete _ _ distant_not_syntactic

theorem prompt_relate (levels : Nat) : Prompt [] (Translation.relate u levels) := by
  refine (Prompt.next _).bind fun _ => (Prompt.require _).bind fun _ => (prompt_operand levels).bind fun _ =>
    (Prompt.require _).bind fun _ => (prompt_geometryOperand levels).bind fun _ => (Prompt.accept _).bind fun comma? => ?_
  cases comma? with
  | some comma =>
    exact prompt_de9imPattern.bind fun _ => (Prompt.complete_ok _ _ _).bind fun _ =>
      (Prompt.complete _ _ de9imOf_not_syntactic).bind fun _ => (Prompt.require _).bind fun _ => .complete_ok _ _ _
  | none => exact (Prompt.require _).bind fun _ => .complete_ok _ _ _

/-! ### Tests of a value -/

theorem prompt_listMember (levels : Nat) : Prompt [] (Translation.listMember u levels) :=
  (Prompt.here _).bind fun _ => (prompt_expression levels).bind fun _ => .complete_ok _ _ _

theorem prompt_inList (levels : Nat) (production : Production) (negated : Bool) (left : Expression)
    (token : SourceToken) : Prompt [] (Translation.inList u levels production negated left token) :=
  (prompt_listMember levels).commaSeparated.parenthesized.bind fun _ => .complete_ok _ _ _

theorem prompt_like (production : Production) (ignoringCase negated : Bool) (left : Expression)
    (token : SourceToken) : Prompt [] (Translation.like u production ignoringCase negated left token) :=
  (Prompt.expectIf _ _).bind fun _ => (Prompt.complete_ok _ _ _).bind fun _ => .complete_ok _ _ _

theorem prompt_between (levels : Nat) (production : Production) (negated : Bool) (left : Expression)
    (token : SourceToken) : Prompt [] (Translation.between u levels production negated left token) :=
  (prompt_expression levels).bind fun _ => (Prompt.expectWord _).bind fun _ => (prompt_expression levels).bind fun _ =>
    .complete_ok _ _ _

theorem prompt_isNull (left : Expression) (token : SourceToken) : Prompt [] (Translation.isNull u left token) :=
  (Prompt.acceptWord _).bind fun _ => (Prompt.expectWord _).bind fun _ => .complete_ok _ _ _

theorem prompt_negatedTest (levels : Nat) (left : Expression) (token : SourceToken) :
    Prompt [] (Translation.negatedTest u levels left token) := by
  refine Prompt.peek.bind fun token? => ?_
  split
  · exact (Prompt.next _).bind fun _ => prompt_inList _ _ _ _ _
  · exact (Prompt.next _).bind fun _ => prompt_like _ _ _ _ _
  · exact (Prompt.next _).bind fun _ => prompt_like _ _ _ _ _
  · exact (Prompt.next _).bind fun _ => prompt_between _ _ _ _ _
  · exact .unexpected _

theorem prompt_keywordTest (levels : Nat) (left : Expression) (keyword? : Option Keyword) :
    Prompt [] (Translation.keywordTest u levels left keyword?) := by
  unfold Translation.keywordTest
  split
  · exact (Prompt.next _).bind fun _ => prompt_negatedTest _ _ _
  · exact (Prompt.next _).bind fun _ => prompt_inList _ _ _ _ _
  · exact (Prompt.next _).bind fun _ => prompt_like _ _ _ _ _
  · exact (Prompt.next _).bind fun _ => prompt_like _ _ _ _ _
  · exact (Prompt.next _).bind fun _ => prompt_between _ _ _ _ _
  · exact (Prompt.next _).bind fun _ => prompt_isNull _ _
  · exact .unexpected _

theorem prompt_testOf (levels : Nat) (left : Expression) : Prompt [] (Translation.testOf u levels left) := by
  refine Prompt.peek.bind fun token? => ?_
  split
  · exact .unexpected _
  · split
    · exact (Prompt.next _).bind fun _ => (prompt_expression levels).bind fun _ => .complete_ok _ _ _
    · exact prompt_keywordTest levels left _

theorem prompt_valueTest (levels : Nat) : Prompt [] (Translation.valueTest u levels) :=
  (prompt_operand levels).bind fun _ => prompt_testOf levels _

/-! ### Combinations -/

theorem prompt_simplePredicate (levels : Nat) (keyword? : Option Keyword) (called : Bool) :
    Prompt [] (Translation.simplePredicate u levels keyword? called) := by
  unfold Translation.simplePredicate
  split
  · exact (Prompt.next _).bind fun _ => .complete_ok _ _ _
  · exact (Prompt.next _).bind fun _ => .complete_ok _ _ _
  · exact prompt_spatial levels _
  · exact prompt_featureIds
  · split
    · exact prompt_featureIds
    · exact prompt_valueTest levels
  · exact prompt_bbox levels
  · exact prompt_distance levels _
  · exact prompt_distance levels _
  · exact prompt_relate levels
  · exact prompt_valueTest levels

theorem prompt_primary (levels : Nat) {group? : Option (Translation Predicate)}
    (hgroup : ∀ group, group? = some group → Prompt [] group) : Prompt [] (Translation.primary u levels group?) := by
  refine Prompt.peek.bind fun token? => ?_
  split
  · exact .unexpected _
  · split
    · exact .next_bind fun l => (Prompt.nested hgroup l).bind fun _ => (Prompt.require _).map _
    · exact prompt_parenFollows.bind fun _ => prompt_simplePredicate levels _ _

theorem prompt_joined (word : String) (production : Production) (combine : Predicate → Predicate → Predicate)
    {item : Translation Predicate} (hitem : Prompt [] item) :
    Prompt [] (Translation.joined u word production combine item) :=
  hitem.bind fun _ => (Prompt.repeatAfter (separates_acceptWord nofun) fun _ =>
    hitem.bind fun _ => .complete_ok _ _ _).map _

theorem prompt_disjunctionOf {negation : Translation Predicate} (h : Prompt [] negation) :
    Prompt [] (Translation.disjunctionOf u negation) :=
  prompt_joined _ _ _ (prompt_joined _ _ _ h)

theorem prompt_negationWith (levels : Nat) {inner? : Option (Translation Predicate)}
    (hinner : ∀ inner, inner? = some inner → Prompt [] inner) :
    Prompt [] (Translation.negationWith u levels inner?) := by
  refine .acceptIf_bind (fun l => (Prompt.nested hinner l).bind fun _ => .complete_ok _ _ _) ?_
  refine prompt_primary levels fun group hgroup => ?_
  obtain ⟨inner, hinner', rfl⟩ := Option.map_eq_some_iff.mp hgroup
  exact prompt_disjunctionOf (hinner inner hinner')

theorem prompt_negation (levels : Nat) : Prompt [] (Translation.negation u levels) := by
  induction levels with
  | zero =>
    rw [Translation.negation]
    exact prompt_negationWith 0 (by nofun)
  | succ levels ih =>
    rw [Translation.negation]
    exact prompt_negationWith (levels + 1) fun inner hinner => by cases hinner; exact ih

theorem prompt_filter (levels : Nat) : Prompt [] (Translation.filter u levels) :=
  prompt_disjunctionOf (prompt_negation levels)

end GeoFilter
