import GeoFilter.Proofs.Comparison.Statement
import GeoFilter.Proofs.Compilation
import GeoFilter.Proofs.Dialects.Operand
import GeoFilter.Proofs.Tokenizer

/-!
# Filters in the two dialects

The extended dialect is a conservative extension of the base dialect: a filter of the base dialect is also one
of the extended dialect and comes to the same tree, unless one of its attributes starts with a word which starts
another expression.
-/

namespace GeoFilter

open Translation (read)

variable {L : List Lexeme} {resolver : CrsResolver}

theorem extension_literalsAlike (hnumerals : Numerals L) : (extension L resolver).LiteralsAlike :=
  (extension_across hnumerals).literalsAlike

/-! ### Predicates that start with a keyword -/

theorem alike_spatial (hnumerals : Numerals L) (levels : Nat) (op : SpatialOp) :
    Alike (extension L resolver) (Translation.spatial (extension L resolver).left levels op)
      (Translation.spatial (extension L resolver).right levels op) := by
  refine .read_bind (.next _) fun keyword => .read_bind (.require _) fun _ => ?_
  refine alike_operand_bind levels (fun left => .bind (.require rfl) _) fun left => ?_
  refine .read_bind (.require _) fun _ => ?_
  refine alike_geometryOperand_bind hnumerals levels (fun right => .bind (.require rfl) _) fun right => ?_
  refine .read_bind (.require _) fun _ => .complete_made ?_
  rw [Translation.spatialRight_plain rfl, Translation.spatialRight_plain rfl]
  rfl

/-- Whatever stops a reduction in the base dialect, the extended dialect may do. -/
theorem alike_complete {production : Production} {tokens : List SourceToken} (value : Except Finding α) :
    Alike (extension L resolver) (Translation.complete (extension L resolver).left production tokens value)
      (Translation.complete (extension L resolver).right production tokens value) :=
  .complete_of (.refl fun _ _ => trivial)

theorem alike_bbox (levels : Nat) :
    Alike (extension L resolver) (Translation.bbox (extension L resolver).left levels)
      (Translation.bbox (extension L resolver).right levels) := by
  refine .read_bind (.next _) fun keyword => .read_bind (.require _) fun _ => ?_
  refine alike_operand_bind levels (fun left => .bind (.bind (.require rfl) _) _) fun left => ?_
  refine alike_commaBound.bind fun minX => alike_commaBound.bind fun minY => ?_
  refine alike_commaBound.bind fun maxX => alike_commaBound.bind fun maxY => ?_
  exact .read_bind shortens_referenceSystem fun code => .read_bind (.require _) fun _ => alike_complete _

theorem alike_distance (hnumerals : Numerals L) (levels : Nat) (op : DistanceOp) :
    Alike (extension L resolver) (Translation.distance (extension L resolver).left levels op)
      (Translation.distance (extension L resolver).right levels op) := by
  refine .read_bind (.next _) fun keyword => .read_bind (.require _) fun _ => ?_
  refine alike_operand_bind levels (fun left => .bind (.require rfl) _) fun left => ?_
  refine .read_bind (.require _) fun _ => ?_
  refine alike_geometryOperand_bind hnumerals levels (fun right => .bind (.require rfl) _) fun right => ?_
  refine .read_bind (.require _) fun _ => alike_signedLiteral.bind fun d => ?_
  refine .read_bind (.require _) fun _ => .read_bind shortens_unitWords fun units => ?_
  exact .read_bind (.require _) fun _ => alike_complete _

/-- Behind its second operand a relation has a pattern after a comma, or it ends. -/
theorem stops_accept_comma {f : Option SourceToken → Translation β} (h : StopsAtSigns (f none)) :
    StopsAtSigns (read (Phrase.accept .comma) >>= f) := by
  rintro input hinput x hx
  have hnone : (Phrase.accept .comma input).outcome = .ok (none, input) := by
    obtain ⟨sign, place, rest, rfl, hsign⟩ := hinput
    refine Phrase.accept_of_ne fun place' rest' heq => ?_
    cases heq
    cases hsign
  rw [Translation.bind_of_ok (Translation.read_of_ok hnone)] at hx
  exact h input hinput x hx

theorem alike_relate (hnumerals : Numerals L) (levels : Nat) :
    Alike (extension L resolver) (Translation.relate (extension L resolver).left levels)
      (Translation.relate (extension L resolver).right levels) := by
  refine .read_bind (.next _) fun keyword => .read_bind (.require _) fun _ => ?_
  refine alike_operand_bind levels (fun left => .bind (.require rfl) _) fun left => ?_
  refine .read_bind (.require _) fun _ => ?_
  refine alike_geometryOperand_bind hnumerals levels
    (fun right => stops_accept_comma (.bind (.require rfl) _)) fun right => ?_
  refine .read_bind (.accept _) fun comma? => ?_
  cases comma? with
  | none => exact .read_bind (.require _) fun _ => .complete_ok _
  | some _ =>
    refine .read_bind shortens_de9imPattern fun pattern => ?_
    refine .bind (.complete_ok ()) fun _ => .bind (alike_complete _) fun _ => ?_
    exact .read_bind (.require _) fun _ => .complete_ok _

/-! ### Single predicates -/

theorem alike_of_stops {c c' : Translation α} (h : ∀ input x, c input ≠ .ok x) :
    Alike (extension L resolver) c c' :=
  fun input _ => related_of_ok fun a rest ha => absurd ha (h input (a, rest))

/-- The dialects differ in the operators of comparison by the words that stand for some in the extended one. -/
theorem comparisonOperator_cases (token : Token) :
    Grammar.comparisonOperator? .ecql token = Grammar.comparisonOperator? .cql token ∨
      Grammar.comparisonOperator? .cql token = none ∧ ∃ op, token.keyword? = some (.comparison op) := by
  cases token with
  | sign sign => exact .inl rfl
  | word text quote =>
    unfold Grammar.comparisonOperator?
    dsimp only
    cases hkeyword : (Token.word text quote).keyword? with
    | none => exact .inl rfl
    | some keyword =>
      cases keyword with
      | comparison op => exact .inr ⟨rfl, op, rfl⟩
      | _ => exact .inl rfl
  | _ => exact .inl rfl

theorem alike_testOf (hnumerals : Numerals L) (levels : Nat) (left : Expression) :
    Alike (extension L resolver) (Translation.testOf (extension L resolver).left levels left)
      (Translation.testOf (extension L resolver).right levels left) := by
  have hw : (extension L resolver).LiteralsAlike := extension_literalsAlike hnumerals
  refine .read_bind .peek fun token? => ?_
  cases token? with
  | none => exact .unexpected _
  | some token =>
    have hleft : Grammar.comparisonOperator? (extension L resolver).left.dialect token =
        Grammar.comparisonOperator? .cql token := rfl
    have hright : Grammar.comparisonOperator? (extension L resolver).right.dialect token =
        Grammar.comparisonOperator? .ecql token := rfl
    dsimp only
    rw [hleft, hright]
    rcases comparisonOperator_cases token with hsame | ⟨hnone, op, hkeyword⟩
    · rw [hsame]
      cases Grammar.comparisonOperator? .cql token with
      | none => exact alike_keywordTest hw levels left _
      | some op => exact .read_bind (.next _) fun _ => .bind (alike_expression hw levels) fun _ => .complete_ok _
    · -- No test of the base dialect starts with a word for an operator.
      rw [hnone, hkeyword]
      refine alike_of_stops fun input x hx => ?_
      cases input <;> cases Translation.read_eq_ok hx

theorem stops_testOf (u : Setting) (levels : Nat) (left : Expression) :
    StopsAtSigns (Translation.testOf u levels left) := by
  rintro input ⟨sign, place, rest, rfl, hsign⟩ x hx
  cases sign with
  | leftParen | plus | minus | star | slash => cases hx
  | _ => cases hsign

theorem alike_valueTest (hnumerals : Numerals L) (levels : Nat) :
    Alike (extension L resolver) (Translation.valueTest (extension L resolver).left levels)
      (Translation.valueTest (extension L resolver).right levels) :=
  alike_operand_bind levels (stops_testOf _ levels) (alike_testOf hnumerals levels)

/-- In the base dialect no test of a value starts with a word and a parenthesis. -/
theorem valueTest_stops (levels : Nat) (l : Lexeme) (place : Place) (mid : List Lexeme)
    (x : Predicate × List Lexeme) :
    Translation.valueTest (unreservedBase L resolver) levels (l :: ⟨.sign .leftParen, place⟩ :: mid) ≠ .ok x := by
  intro hx
  obtain ⟨left, rest, hleft, htest⟩ := Translation.bind_eq_ok hx
  obtain ⟨_, _, hcons, _, _, hrest⟩ := Translation.propertyName_eq_ok hleft
  cases hcons
  have hcontinued : Continued (⟨.sign .leftParen, place⟩ :: mid) := ⟨_, _, _, rfl, rfl⟩
  rw [continued_of_attributeNames hcontinued] at hrest
  rw [hrest] at htest
  exact stops_testOf _ levels left _ hcontinued x htest

/-- A single predicate comes to the same, whether a parenthesis follows its first word or not. -/
theorem related_single (hnumerals : Numerals L) (levels : Nat) {l : Lexeme} {mid : List Lexeme}
    (hinput : l :: mid <:+ L) :
    Related (extension L resolver)
      ((read Grammar.parenFollows >>= fun called =>
        Translation.simplePredicate (extension L resolver).left levels l.token.keyword? called) (l :: mid))
      ((read Grammar.parenFollows >>= fun called =>
        Translation.simplePredicate (extension L resolver).right levels l.token.keyword? called) (l :: mid)) := by
  have hcalled : read Grammar.parenFollows (l :: mid) =
      .ok (mid.head?.map Lexeme.token == some (.sign .leftParen), l :: mid) := rfl
  rw [Translation.bind_of_ok hcalled, Translation.bind_of_ok hcalled]
  have hvalue : Related (extension L resolver) _ _ := alike_valueTest hnumerals levels _ hinput
  cases l.token.keyword? with
  | none => exact hvalue
  | some keyword =>
    cases hparen : mid.head?.map Lexeme.token == some (.sign .leftParen) with
    | false =>
      cases keyword with
      | INCLUDE | EXCLUDE =>
        exact Alike.read_bind (.next _) (fun _ => .complete_ok _) _ hinput
      | _ => exact hvalue
    | true =>
      cases keyword with
      | INCLUDE | EXCLUDE =>
        exact Alike.read_bind (.next _) (fun _ => .complete_ok _) _ hinput
      | relation op => exact alike_spatial hnumerals levels op _ hinput
      | ID => exact alike_featureIds _ hinput
      | BBOX => exact alike_bbox levels _ hinput
      | DWITHIN => exact alike_distance hnumerals levels .dwithin _ hinput
      | BEYOND => exact alike_distance hnumerals levels .beyond _ hinput
      | RELATE => exact alike_relate hnumerals levels _ hinput
      | IN =>
        refine related_of_ok fun p rest hp => ?_
        rcases mid with _ | ⟨⟨token, place⟩, mid⟩
        · cases hparen
        · cases beq_iff_eq.mp hparen
          exact absurd hp (valueTest_stops levels l place mid _)
      | _ => exact hvalue

theorem alike_primary (hnumerals : Numerals L) (levels : Nat)
    {group? group?' : Option (Translation Predicate)}
    (hgroup : Option.Rel (Alike (extension L resolver)) group? group?') :
    Alike (extension L resolver) (Translation.primary (extension L resolver).left levels group?)
      (Translation.primary (extension L resolver).right levels group?') := by
  intro input hinput
  rcases input with _ | ⟨⟨token, place⟩, mid⟩
  · exact Alike.unexpected "a predicate" [] hinput
  have hsingle : Related (extension L resolver) _ _ := related_single hnumerals levels hinput
  cases token with
  | sign sign =>
    cases sign with
    | leftParen =>
      exact Alike.read_bind (.next "a predicate") (fun opener => .bind (.nested hgroup opener) fun p =>
        .read_bind (.require _) fun _ => .pure p) _ hinput
    | leftBracket =>
      refine related_of_ok fun p rest hp => ?_
      have hvalue : Translation.valueTest (unreservedBase L resolver) levels
          (⟨.sign .leftBracket, place⟩ :: mid) = .ok (p, rest) := hp
      obtain ⟨left, _, hleft, _⟩ := Translation.bind_eq_ok hvalue
      obtain ⟨_, _, hcons, hword, _⟩ := Translation.propertyName_eq_ok hleft
      cases hcons
      cases hword
    | _ => exact hsingle
  | _ => exact hsingle

theorem alike_filter_extension (hnumerals : Numerals L) (levels : Nat) :
    Alike (extension L resolver) (Translation.filter (extension L resolver).left levels)
      (Translation.filter (extension L resolver).right levels) :=
  alike_filter (fun levels => alike_primary hnumerals levels) levels

/-! ### Statements -/

/-- Whether no attribute of a statement in the base dialect starts with a reserved word. -/
def NoReservedAttribute (statement : String) (entry : EntryPoint) : Prop :=
  ∀ lexemes, scan statement = .ok lexemes →
    ∀ part ∈ Grammar.statementParts .cql lexemes entry,
      ∀ r ∈ part.reductions, r.isReservedAttribute lexemes = false

instance (statement : String) (entry : EntryPoint) : Decidable (NoReservedAttribute statement entry) :=
  match hscan : scan statement with
  | .ok L =>
    decidable_of_iff
      (∀ part ∈ Grammar.statementParts .cql L entry, ∀ r ∈ part.reductions, r.isReservedAttribute L = false)
      ⟨fun h lexemes hlexemes => by cases hscan.symm.trans hlexemes; exact h, fun h => h L hscan⟩
  | .error f => .isTrue fun lexemes hlexemes => nomatch hscan.symm.trans hlexemes

theorem NoReservedAttribute.permitted {statement : String} {entry : EntryPoint}
    (h : NoReservedAttribute statement entry) (hscan : scan statement = .ok L) (red : Reduction) :
    ¬UnpermittedIn (unreservedBase L resolver) (Grammar.statementParts .cql L entry) red := by
  rintro ⟨⟨part, hpart, hred⟩, hpermits⟩
  have hnot : (!red.isReservedAttribute L) = false := hpermits
  rw [h L hscan part hpart red hred] at hnot
  cases hnot

/-- **The extended dialect is a conservative extension of the base dialect.**  What compiles as a filter or as a
list of filters in the base dialect, compiles to the same trees in the extended one, unless an attribute starts
with TRUE, FALSE or SRID. -/
theorem extended_of_base (resolver : CrsResolver) (statement : String) :
    (NoReservedAttribute statement .filter → ∀ p,
      ((⟨.cql, ⟨.plain, resolver⟩⟩ : Compiler).compileFilter statement).result = .ok p →
      ((⟨.ecql, ⟨.plain, resolver⟩⟩ : Compiler).compileFilter statement).result = .ok p) ∧
    (NoReservedAttribute statement .list → ∀ ps,
      ((⟨.cql, ⟨.plain, resolver⟩⟩ : Compiler).compileFilterList statement).result = .ok ps →
      ((⟨.ecql, ⟨.plain, resolver⟩⟩ : Compiler).compileFilterList statement).result = .ok ps) := by
  refine ⟨fun hfree p hp => ?_, fun hfree ps hps => ?_⟩
  · obtain ⟨L, hscan⟩ := scan_of_compiled (single_eq_ok hp)
    have hbase := (compileFilter_reports (u := unreservedBase L resolver) hscan).eq_ok
      (hfree.permitted hscan) hp
    have hextended := compileFilter_reports (u := (extension L resolver).right) hscan
    have hfilter : Alike (extension L resolver) (Translation.filterStatement (unreservedBase L resolver))
        (Translation.filterStatement (extension L resolver).right) :=
      alike_toEnd (alike_filter_extension (numeral_of_scan hscan) maxNesting)
    cases hread : Translation.filterStatement (unreservedBase L resolver) L with
    | error stop =>
      rw [hread] at hbase
      cases hbase
    | ok x =>
      rw [hread] at hbase
      cases hbase
      have hright := (eq_ok_of_alike hfilter List.suffix_rfl hread).1
      rw [hright] at hextended
      exact hextended.of_ok
  · obtain ⟨L, hscan⟩ := scan_of_compiled hps
    have hbase := (compileFilterList_reports (u := unreservedBase L resolver) hscan).eq_ok
      (hfree.permitted hscan) hps
    have hextended := compileFilterList_reports (u := (extension L resolver).right) hscan
    have hright : Translation.listStatement (extension L resolver).right L = .ok ps :=
      filterList_of_alike (alike_filter_extension (numeral_of_scan hscan) maxNesting) List.suffix_rfl hbase
    rw [hright] at hextended
    exact hextended.of_ok

theorem extended_of_base_roads :
    (∃ p, ((⟨.cql, ⟨.plain, CrsRegistry.wellKnown.resolver⟩⟩ : Compiler).compileFilter
        "height < 3 AND road.name IS NULL").result = .ok p ∧
      ((⟨.ecql, ⟨.plain, CrsRegistry.wellKnown.resolver⟩⟩ : Compiler).compileFilter
        "height < 3 AND road.name IS NULL").result = .ok p) ∧
    ∃ ps, ((⟨.cql, ⟨.plain, CrsRegistry.wellKnown.resolver⟩⟩ : Compiler).compileFilterList
        "height < 3; road.name IS NULL").result = .ok ps ∧
      ((⟨.ecql, ⟨.plain, CrsRegistry.wellKnown.resolver⟩⟩ : Compiler).compileFilterList
        "height < 3; road.name IS NULL").result = .ok ps := by
  constructor
  · have hok : ((⟨.cql, ⟨.plain, CrsRegistry.wellKnown.resolver⟩⟩ : Compiler).compileFilter
        "height < 3 AND road.name IS NULL").result.isOk = true := by decide +kernel
    generalize hp : ((⟨.cql, ⟨.plain, CrsRegistry.wellKnown.resolver⟩⟩ : Compiler).compileFilter
        "height < 3 AND road.name IS NULL").result = result at hok
    cases result with
    | error failure => cases hok
    | ok p => exact ⟨p, rfl, (extended_of_base _ _).1 (by decide +kernel) p hp⟩
  · have hok : ((⟨.cql, ⟨.plain, CrsRegistry.wellKnown.resolver⟩⟩ : Compiler).compileFilterList
        "height < 3; road.name IS NULL").result.isOk = true := by decide +kernel
    generalize hps : ((⟨.cql, ⟨.plain, CrsRegistry.wellKnown.resolver⟩⟩ : Compiler).compileFilterList
        "height < 3; road.name IS NULL").result = result at hok
    cases result with
    | error failure => cases hok
    | ok ps => exact ⟨ps, rfl, (extended_of_base _ _).2 (by decide +kernel) ps hps⟩

end GeoFilter
