import GeoFilter.Proofs.Comparison.Predicate
import GeoFilter.Proofs.Ensures.Expression

/-!
# What filters are like

Every predicate that is translated is `Compiled`.
-/

namespace GeoFilter

open Translation (read)

/-! ### Conjunctions and disjunctions -/

section Flat

variable {resolver : CrsResolver} {p q : Predicate}

theorem ne_nil_of_two_le {as : List α} (h : 2 ≤ as.length) : as ≠ [] :=
  List.ne_nil_of_length_pos (Nat.lt_of_lt_of_le Nat.zero_lt_two h)

theorem conjuncts_of_compiled (h : p.Compiled resolver) :
    p.conjuncts ≠ [] ∧ ∀ c ∈ p.conjuncts, c.Compiled resolver ∧ c.conjuncts = [c] := by
  have hcases : (∃ children, p = .and children) ∨ p.conjuncts = [p] := by
    cases p with
    | and children => exact .inl ⟨children, rfl⟩
    | _ => exact .inr rfl
  rcases hcases with ⟨children, rfl⟩ | halone
  · cases h with
    | and several compiled flat => exact ⟨ne_nil_of_two_le several, fun c hc => ⟨compiled c hc, flat c hc⟩⟩
  · rw [halone]
    exact ⟨List.cons_ne_nil _ _, List.forall_mem_singleton.mpr ⟨h, halone⟩⟩

theorem disjuncts_of_compiled (h : p.Compiled resolver) :
    p.disjuncts ≠ [] ∧ ∀ c ∈ p.disjuncts, c.Compiled resolver ∧ c.disjuncts = [c] := by
  have hcases : (∃ children, p = .or children) ∨ p.disjuncts = [p] := by
    cases p with
    | or children => exact .inl ⟨children, rfl⟩
    | _ => exact .inr rfl
  rcases hcases with ⟨children, rfl⟩ | halone
  · cases h with
    | or several compiled flat => exact ⟨ne_nil_of_two_le several, fun c hc => ⟨compiled c hc, flat c hc⟩⟩
  · rw [halone]
    exact ⟨List.cons_ne_nil _ _, List.forall_mem_singleton.mpr ⟨h, halone⟩⟩

theorem compiled_flatAnd (hp : p.Compiled resolver) (hq : q.Compiled resolver) :
    (Predicate.flatAnd p q).Compiled resolver := by
  obtain ⟨hpne, hpall⟩ := conjuncts_of_compiled hp
  obtain ⟨hqne, hqall⟩ := conjuncts_of_compiled hq
  have hall : ∀ c ∈ p.conjuncts ++ q.conjuncts, c.Compiled resolver ∧ c.conjuncts = [c] :=
    List.forall_mem_append.mpr ⟨hpall, hqall⟩
  have hpos := List.length_pos_iff.mpr hpne
  have hpos' := List.length_pos_iff.mpr hqne
  refine .and ?_ (fun c hc => (hall c hc).1) fun c hc => (hall c hc).2
  rw [List.length_append]
  omega

theorem compiled_flatOr {ps : List Predicate} (hne : ps ≠ []) (h : ∀ p ∈ ps, p.Compiled resolver) :
    (Predicate.flatOr ps).Compiled resolver := by
  have hall : ∀ c ∈ ps.flatMap Predicate.disjuncts, c.Compiled resolver ∧ c.disjuncts = [c] := by
    intro c hc
    obtain ⟨p, hp, hc⟩ := List.mem_flatMap.mp hc
    exact (disjuncts_of_compiled (h p hp)).2 c hc
  have hpos : ps.flatMap Predicate.disjuncts ≠ [] := by
    obtain ⟨p, ps, rfl⟩ := List.exists_cons_of_ne_nil hne
    rw [List.flatMap_cons]
    exact List.append_ne_nil_of_left_ne_nil (disjuncts_of_compiled (h p List.mem_cons_self)).1 _
  unfold Predicate.flatOr
  split
  case h_1 p hp => exact (hall p (hp ▸ List.mem_cons_self)).1
  case h_2 hseveral =>
    refine .or ?_ (fun c hc => (hall c hc).1) fun c hc => (hall c hc).2
    match hds : ps.flatMap Predicate.disjuncts with
    | [] => exact absurd hds hpos
    | [d] => exact absurd hds (hseveral d)
    | _ :: _ :: _ => exact Nat.le_add_left _ _

end Flat

/-! ### Tests -/

section Ecql

variable {u : Setting} {start : List Token → Prop} {levels : Nat} (hu : u.IsPlain) (hecql : u.dialect = .ecql)
  (hknown : ∀ srid crs, u.kit.resolver srid = .ok crs → crs.IsKnown u.kit.resolver)

include hu

theorem compiled_negatedWhen (negated : Bool) {p : Predicate} (h : p.Compiled u.kit.resolver) :
    (negatedWhen u.kit.factory negated p).Compiled u.kit.resolver := by
  rw [hu.factory]
  unfold negatedWhen
  split
  · exact .not h
  · exact h

theorem ensures_like {left : Expression} (hleft : left.Compiled u.kit.resolver true) (production : Production)
    (ignoringCase negated : Bool) (token : SourceToken) :
    Ensures Token.IsPlain start (Translation.like u production ignoringCase negated left token)
      (Predicate.Compiled u.kit.resolver) := by
  refine (Ensures.expectIf _ _).bind fun pattern _ => ?_
  refine (Ensures.complete_ok (Q := fun _ => True) _ _ trivial).bind fun _ _ => .complete_ok _ _ ?_
  refine compiled_negatedWhen hu negated ?_
  rw [hu.factory]
  exact .like hleft

theorem ensures_isNull {left : Expression} (hleft : left.Compiled u.kit.resolver true) (token : SourceToken) :
    Ensures Token.IsPlain start (Translation.isNull u left token) (Predicate.Compiled u.kit.resolver) := by
  refine (Ensures.acceptWord _).bind fun not? _ => (Ensures.expectWord _).bind fun _ _ => .complete_ok _ _ ?_
  refine compiled_negatedWhen hu _ ?_
  rw [hu.factory]
  exact .isNull hleft

include hecql hknown

theorem ensures_anyExpression :
    Ensures Token.IsPlain start (Translation.expression u levels) (Expression.Compiled u.kit.resolver false) :=
  (ensures_expression hu (ensuresLiterals_plain hecql hknown) levels).of_start fun ts _ => leads_false ts

theorem ensures_inList {left : Expression} (hleft : left.Compiled u.kit.resolver true) (production : Production)
    (negated : Bool) (token : SourceToken) :
    Ensures Token.IsPlain start (Translation.inList u levels production negated left token)
      (Predicate.Compiled u.kit.resolver) := by
  have hmember : Ensures Token.IsPlain Anything (Translation.listMember u levels)
      (Expression.Compiled u.kit.resolver false) :=
    .here_bind fun token => (ensures_anyExpression hu hecql hknown).bind fun _ hx => .complete_ok _ _ hx
  refine (Ensures.commaSeparated hmember).parenthesized.bind fun candidates hcandidates => .complete_ok _ _ ?_
  refine compiled_negatedWhen hu negated ?_
  rw [anyOf, hu.factory]
  refine compiled_flatOr (by simp) fun p hp => ?_
  obtain ⟨x, hx, rfl⟩ := List.mem_map.mp hp
  exact .comparison hleft (hcandidates x hx)

theorem ensures_between {left : Expression} (hleft : left.Compiled u.kit.resolver true) (production : Production)
    (negated : Bool) (token : SourceToken) :
    Ensures Token.IsPlain start (Translation.between u levels production negated left token)
      (Predicate.Compiled u.kit.resolver) := by
  refine (ensures_anyExpression hu hecql hknown).bind fun lower hlower => (Ensures.expectWord _).bind fun _ _ => ?_
  refine (ensures_anyExpression hu hecql hknown).bind fun upper hupper => .complete_ok _ _ ?_
  refine compiled_negatedWhen hu negated ?_
  rw [hu.factory]
  exact .between hleft hlower hupper

theorem ensures_negatedTest {left : Expression} (hleft : left.Compiled u.kit.resolver true) (token : SourceToken) :
    Ensures Token.IsPlain start (Translation.negatedTest u levels left token)
      (Predicate.Compiled u.kit.resolver) := by
  refine .peek_bind fun token? => ?_
  split
  · exact (Ensures.next _).bind fun _ _ => ensures_inList hu hecql hknown hleft _ _ _
  · exact (Ensures.next _).bind fun _ _ => ensures_like hu hleft _ _ _ _
  · exact (Ensures.next _).bind fun _ _ => ensures_like hu hleft _ _ _ _
  · exact (Ensures.next _).bind fun _ _ => ensures_between hu hecql hknown hleft _ _ _
  · exact .unexpected _

theorem ensures_keywordTest {left : Expression} (hleft : left.Compiled u.kit.resolver true)
    (keyword? : Option Keyword) :
    Ensures Token.IsPlain start (Translation.keywordTest u levels left keyword?)
      (Predicate.Compiled u.kit.resolver) := by
  unfold Translation.keywordTest
  dsimp only
  split
  · exact (Ensures.next _).bind fun _ _ => ensures_negatedTest hu hecql hknown hleft _
  · exact (Ensures.next _).bind fun _ _ => ensures_inList hu hecql hknown hleft _ _ _
  · exact (Ensures.next _).bind fun _ _ => ensures_like hu hleft _ _ _ _
  · exact (Ensures.next _).bind fun _ _ => ensures_like hu hleft _ _ _ _
  · exact (Ensures.next _).bind fun _ _ => ensures_between hu hecql hknown hleft _ _ _
  · exact (Ensures.next _).bind fun _ _ => ensures_isNull hu hleft _
  · exact .unexpected _

theorem ensures_testOf {left : Expression} (hleft : left.Compiled u.kit.resolver true) :
    Ensures Token.IsPlain start (Translation.testOf u levels left) (Predicate.Compiled u.kit.resolver) := by
  refine .peek_bind fun token? => ?_
  split
  · exact .unexpected _
  · split
    · refine (Ensures.next _).bind fun operator _ => ?_
      refine (ensures_anyExpression hu hecql hknown).bind fun right hright => ?_
      rw [hu.factory]
      exact .complete_ok _ _ (.comparison hleft hright)
    · exact ensures_keywordTest hu hecql hknown hleft _

theorem ensures_valueTest :
    Ensures Token.IsPlain (Leads true) (Translation.valueTest u levels) (Predicate.Compiled u.kit.resolver) := by
  unfold Translation.valueTest Translation.operand
  rw [hecql]
  exact (ensures_expression hu (ensuresLiterals_plain hecql hknown) levels).bind fun left hleft => ensures_testOf hu hecql hknown hleft

/-! ### Routines -/

omit hecql hknown in
theorem ensures_featureIds :
    Ensures Token.IsPlain start (Translation.featureIds u) (Predicate.Compiled u.kit.resolver) := by
  have hid : Ensures Token.IsPlain Anything (Translation.featureId u) fun _ => True :=
    (Ensures.expectIf _ _).bind fun _ _ => .complete_ok _ _ trivial
  refine (Ensures.next _).bind fun keyword _ => (Ensures.commaSeparated hid).parenthesized.bind fun ids _ => ?_
  rw [hu.factory]
  exact .complete_ok _ _ .featureIds

theorem ensures_operand :
    Ensures Token.IsPlain start (Translation.operand u levels) (Expression.Compiled u.kit.resolver false) := by
  unfold Translation.operand
  rw [hecql]
  exact ensures_anyExpression hu hecql hknown

theorem ensures_geometryOperand :
    Ensures Token.IsPlain start (Translation.geometryOperand u levels) (Expression.Compiled u.kit.resolver false) := by
  unfold Translation.geometryOperand
  rw [hecql]
  exact ensures_anyExpression hu hecql hknown

theorem ensures_spatial {op : SpatialOp} :
    Ensures Token.IsPlain start (Translation.spatial u levels op) (Predicate.Compiled u.kit.resolver) := by
  refine (Ensures.next _).bind fun keyword _ => (Ensures.require _).bind fun _ _ => ?_
  refine (ensures_operand hu hecql hknown).bind fun left hleft => (Ensures.require _).bind fun _ _ => ?_
  refine (ensures_geometryOperand hu hecql hknown).bind fun right hright => (Ensures.require _).bind fun _ _ => ?_
  have hsame : Translation.spatialRight u right = right := by
    unfold Translation.spatialRight
    rw [hecql]
  rw [hsame, hu.factory]
  exact .complete_ok _ _ (.spatial fun _ => ⟨hleft, hright⟩)

theorem ensures_bbox :
    Ensures Token.IsPlain start (Translation.bbox u levels) (Predicate.Compiled u.kit.resolver) := by
  have hbound : Ensures Token.IsPlain Anything (Translation.commaBound u) fun _ => True :=
    (Ensures.require _).bind fun _ _ => ensures_signedLiteral.mono fun _ _ => trivial
  refine (Ensures.next _).bind fun keyword _ => (Ensures.require _).bind fun _ _ => ?_
  refine (ensures_operand hu hecql hknown).bind fun left _ => hbound.bind fun minX _ => hbound.bind fun minY _ => ?_
  refine hbound.bind fun maxX _ => hbound.bind fun maxY _ => (Ensures.shortens shortens_referenceSystem).bind fun code _ => ?_
  refine (Ensures.require _).bind fun _ _ => .complete _ _ fun p hp => ?_
  unfold boxed at hp
  split at hp
  · cases hp
    rw [hu.factory]
    exact .spatial fun hne => absurd rfl hne
  · cases hp

theorem ensures_distance {op : DistanceOp} :
    Ensures Token.IsPlain start (Translation.distance u levels op) (Predicate.Compiled u.kit.resolver) := by
  refine (Ensures.next _).bind fun keyword _ => (Ensures.require _).bind fun _ _ => ?_
  refine (ensures_operand hu hecql hknown).bind fun left hleft => (Ensures.require _).bind fun _ _ => ?_
  refine (ensures_geometryOperand hu hecql hknown).bind fun right hright => (Ensures.require _).bind fun _ _ => ?_
  refine ensures_signedLiteral.bind fun d hd => (Ensures.require _).bind fun _ _ => ?_
  refine (Ensures.shortens shortens_unitWords).bind fun units _ => (Ensures.require _).bind fun _ _ => .complete _ _ fun p hp => ?_
  unfold distant at hp
  dsimp only at hp
  split at hp
  · cases hp
    rw [hu.factory]
    exact .distance hleft hright hd.plain.2
  · cases hp

omit hu hecql hknown in
theorem isWord_relate : IsWord "relate" :=
  ⟨['r'], "elate".toList, rfl, .inl ⟨'r', rfl, by decide⟩, List.all_eq_true.mp rfl⟩

omit hu hecql hknown in
theorem isWord_relatePattern : IsWord "relatePattern" :=
  ⟨['r'], "elatePattern".toList, rfl, .inl ⟨'r', rfl, by decide⟩, List.all_eq_true.mp rfl⟩

omit hecql hknown in
theorem compiled_related {name : String} {args : List Expression} (hword : IsWord name)
    (hname : (name = "relate" ∨ name = "relatePattern"))
    (hargs : ∀ arg ∈ args, arg.Compiled u.kit.resolver false) :
    (related u.kit.factory name args).Compiled u.kit.resolver := by
  have hfree : ∀ keyword ∈ Keyword.ofText? name, keyword.isCallable = true := by
    rcases hname with rfl | rfl
    · rintro _ ⟨⟩
      rfl
    · rintro _ ⟨⟩
  have hleads : name = "relate" ∨ (Token.word name none).LeadsTest true := by
    refine hname.imp_right ?_
    rintro rfl
    exact ⟨rfl, rfl, nofun⟩
  rw [related, hu.factory]
  exact .comparison (.function hword hfree (fun _ => hleads) hargs) (.literal trivial)

theorem ensures_relate :
    Ensures Token.IsPlain start (Translation.relate u levels) (Predicate.Compiled u.kit.resolver) := by
  refine (Ensures.next _).bind fun keyword _ => (Ensures.require _).bind fun _ _ => ?_
  refine (ensures_operand hu hecql hknown).bind fun left hleft => (Ensures.require _).bind fun _ _ => ?_
  refine (ensures_geometryOperand hu hecql hknown).bind fun right hright => .acceptIf_bind (fun _ => ?_) ?_
  · refine (Ensures.shortens shortens_de9imPattern).bind fun pattern _ => ?_
    refine (Ensures.complete_ok (Q := fun _ => True) _ _ trivial).bind fun _ _ => ?_
    refine (Ensures.complete _ _ (Q := fun _ => True) fun _ _ => trivial).bind fun _ _ => ?_
    refine (Ensures.require _).bind fun _ _ => .complete_ok _ _ (compiled_related hu isWord_relatePattern (.inr rfl) ?_)
    have hpattern : (u.kit.factory.literal (.string pattern.text)).Compiled u.kit.resolver false := by
      rw [hu.factory]
      exact .literal trivial
    simp only [List.forall_mem_cons]
    exact ⟨hleft, hright, hpattern, List.forall_mem_nil _⟩
  · refine (Ensures.require _).bind fun _ _ => .complete_ok _ _ (compiled_related hu isWord_relate (.inl rfl) ?_)
    simp only [List.forall_mem_cons]
    exact ⟨hleft, hright, List.forall_mem_nil _⟩

/-! ### Filters -/

theorem ensures_simplePredicate {token : Token} {called : Bool} (hnot : token.isWord "NOT" = false)
    (hclosing : Grammar.closingSign? .ecql token = none) :
    Ensures Token.IsPlain (fun ts => ts.head? = some token ∧ Ensures.Called ts = called)
      (Translation.simplePredicate u levels token.keyword? called) (Predicate.Compiled u.kit.resolver) := by
  have htest : (∀ keyword ∈ token.keyword?, keyword.leadsTest called = true) →
      Ensures Token.IsPlain (fun ts => ts.head? = some token ∧ Ensures.Called ts = called)
        (Translation.valueTest u levels) (Predicate.Compiled u.kit.resolver) := by
    intro hkeyword
    refine (ensures_valueTest hu hecql hknown).of_start fun ts hts _ token' htoken' => ?_
    obtain rfl : token = token' := Option.some.inj (hts.1.symm.trans htoken')
    rw [hts.2]
    exact ⟨hnot, hclosing, hkeyword⟩
  unfold Translation.simplePredicate
  split
  · refine (Ensures.next _).bind fun _ _ => ?_
    rw [hu.factory]
    exact .complete_ok _ _ .includeAll
  · refine (Ensures.next _).bind fun _ _ => ?_
    rw [hu.factory]
    exact .complete_ok _ _ .excludeAll
  · exact ensures_spatial hu hecql hknown
  · exact ensures_featureIds hu
  · rw [hecql]
    exact ensures_featureIds hu
  · exact ensures_bbox hu hecql hknown
  · exact ensures_distance hu hecql hknown
  · exact ensures_distance hu hecql hknown
  · exact ensures_relate hu hecql hknown
  case h_10 hinclude hexclude hrelation hid hin hbbox hdwithin hbeyond hrelate =>
    -- every keyword of a routine is ruled out, if a parenthesis follows
    have hcalled : ∀ {b : Bool}, (b = true → False) → (!b) = true := fun h => by rw [Bool.eq_false_iff.mpr h]; rfl
    refine htest fun keyword hkeyword => ?_
    cases keyword with
    | INCLUDE => exact (hinclude hkeyword).elim
    | EXCLUDE => exact (hexclude hkeyword).elim
    | relation op => exact hcalled (hrelation op hkeyword)
    | ID => exact hcalled (hid hkeyword)
    | IN => exact hcalled (hin hkeyword)
    | BBOX => exact hcalled (hbbox hkeyword)
    | DWITHIN => exact hcalled (hdwithin hkeyword)
    | BEYOND => exact hcalled (hbeyond hkeyword)
    | RELATE => exact hcalled (hrelate hkeyword)
    | _ => rfl

theorem ensures_primary {group? : Option (Translation Predicate)}
    (hgroup : ∀ group, group? = some group →
      Ensures Token.IsPlain Anything group (Predicate.Compiled u.kit.resolver)) :
    Ensures Token.IsPlain (Without (Token.isWord "NOT")) (Translation.primary u levels group?)
      (Predicate.Compiled u.kit.resolver) := by
  refine .peek_bind fun token? => ?_
  rcases token? with _ | token
  · exact .unexpected _
  · dsimp only
    refine .assume (P := token.isWord "NOT" = false) (fun _ _ hts => hts.1 token hts.2) fun hnot => ?_
    split
    · exact (Ensures.next _).bind fun opener _ => (Ensures.nested hgroup opener).bind fun p hp =>
        (Ensures.require _).map fun _ _ => hp
    case h_2 hclosing =>
      rw [hecql] at hclosing
      refine .parenFollows_bind fun called => ?_
      exact (ensures_simplePredicate hu hecql hknown hnot hclosing).of_start fun ts hts => ⟨hts.1.2, hts.2⟩

omit hu hecql hknown in
theorem ensures_joined {word : String} {production : Production} {combine : Predicate → Predicate → Predicate}
    (hcombine : ∀ p q, p.Compiled u.kit.resolver → q.Compiled u.kit.resolver → (combine p q).Compiled u.kit.resolver)
    {item : Translation Predicate}
    (hitem : Ensures Token.IsPlain Anything item (Predicate.Compiled u.kit.resolver)) :
    Ensures Token.IsPlain start (Translation.joined u word production combine item)
      (Predicate.Compiled u.kit.resolver) := by
  have hnext : ∀ token, Ensures Token.IsPlain Anything (Translation.nextPredicate u production item token)
      (Predicate.Compiled u.kit.resolver) :=
    fun token => hitem.bind fun p hp => .complete_ok _ _ hp
  refine hitem.anywhere.bind fun p hp => (Ensures.repeatAfter (.acceptWord word) hnext).map fun more hmore => ?_
  exact List.foldlRecOn more combine hp fun q hq r hr => hcombine q r hq (hmore r hr)

omit hecql hknown in
theorem ensures_disjunctionOf {negation : Translation Predicate}
    (h : Ensures Token.IsPlain Anything negation (Predicate.Compiled u.kit.resolver)) :
    Ensures Token.IsPlain start (Translation.disjunctionOf u negation) (Predicate.Compiled u.kit.resolver) := by
  unfold Translation.disjunctionOf
  rw [hu.factory]
  refine ensures_joined (fun p q hp hq => compiled_flatOr (List.cons_ne_nil _ _) ?_)
    (ensures_joined (fun p q hp hq => compiled_flatAnd hp hq) h)
  exact List.forall_mem_cons.mpr ⟨hp, List.forall_mem_singleton.mpr hq⟩

theorem ensures_negationWith {inner? : Option (Translation Predicate)}
    (hinner : ∀ inner, inner? = some inner →
      Ensures Token.IsPlain Anything inner (Predicate.Compiled u.kit.resolver)) :
    Ensures Token.IsPlain start (Translation.negationWith u levels inner?)
      (Predicate.Compiled u.kit.resolver) := by
  refine .acceptIf_bind (fun token => ?_) ?_
  · refine (Ensures.nested hinner token).bind fun p hp => ?_
    rw [hu.factory]
    exact .complete_ok _ _ (.not hp)
  · refine (ensures_primary hu hecql hknown fun group hgroup => ?_).of_start fun ts hts => hts.2
    obtain ⟨inner, hinner', rfl⟩ := Option.map_eq_some_iff.mp hgroup
    exact ensures_disjunctionOf hu (hinner inner hinner')

theorem ensures_negation (levels : Nat) :
    Ensures Token.IsPlain start (Translation.negation u levels) (Predicate.Compiled u.kit.resolver) := by
  induction levels generalizing start with
  | zero =>
    refine ensures_negationWith hu hecql hknown ?_
    rintro _ ⟨⟩
  | succ levels ih =>
    refine ensures_negationWith hu hecql hknown ?_
    rintro _ ⟨⟩
    exact ih

theorem ensures_filter (levels : Nat) :
    Ensures Token.IsPlain start (Translation.filter u levels) (Predicate.Compiled u.kit.resolver) :=
  ensures_disjunctionOf hu (ensures_negation hu hecql hknown levels)

end Ecql

end GeoFilter
