import GeoFilter.Proofs.Comparison.Predicate
import GeoFilter.Proofs.Framing.Expression

/-!
# What stands behind filters

Filters are solid, and so are the predicates that they are made of, also if more levels are left for nesting than they
need.
-/

namespace GeoFilter

open Translation (read bind_of_ok bind_eq_ok read_of_ok read_eq_ok)

variable {u : Setting} {sort : Token → Bool} {m n : Nat}

/-! ### Words and patterns -/

theorem leadingWords_frame {taken tail tail' : List Lexeme} {words : List SourceToken}
    (hexchange : Exchange Token.never tail tail') (h : Grammar.leadingWords (taken ++ tail) = (words, tail)) :
    Grammar.leadingWords (taken ++ tail') = (words, tail') := by
  induction taken generalizing words with
  | nil =>
    -- the words stop at the end or at a lexeme that stays
    have hsame : ∀ l ls ls', Grammar.leadingWords (l :: ls) = (words, l :: ls) →
        Grammar.leadingWords (l :: ls') = (words, l :: ls') := by
      intro l ls ls' hread
      rw [Grammar.leadingWords] at hread ⊢
      by_cases hword : Grammar.isAnyWord l.token = true
      · rw [if_pos hword] at hread
        have hlength := (leadingWords_suffix ls).length_le
        rw [(Prod.mk.inj hread).2, List.length_cons] at hlength
        omega
      · rw [if_neg hword] at hread ⊢
        rw [(Prod.mk.inj hread).1]
    cases hexchange with
    | refl => exact h
    | head => exact hsame _ _ _ h
    | heads => exact hsame _ _ _ h
    | ends hends hends' =>
      rcases tail with _ | ⟨l, tail⟩
      · rcases tail' with _ | ⟨l', tail'⟩
        · exact h
        · cases hends' l' rfl
      · cases hends l rfl
  | cons l taken ih =>
    rw [List.cons_append, Grammar.leadingWords] at h ⊢
    by_cases hword : Grammar.isAnyWord l.token = true
    · rw [if_pos hword] at h ⊢
      obtain ⟨rfl, hrest⟩ := Prod.mk.inj h
      rw [ih (Prod.ext rfl hrest)]
    · rw [if_neg hword, ← List.cons_append] at h
      exact absurd (List.append_left_eq_self.mp (Prod.mk.inj h).2) (List.cons_ne_nil l taken)

theorem unitWords_cons (l : Lexeme) (ls : List Lexeme) :
    (Grammar.unitWords (l :: ls)).outcome =
      if Grammar.isAnyWord l.token = true then .ok (Grammar.leadingWords (l :: ls))
      else .error (.unexpected "distance units" l.source) := by
  unfold Grammar.unitWords
  by_cases hword : Grammar.isAnyWord l.token = true
  · simp only [Grammar.leadingWords, if_pos hword]
  · simp only [Grammar.leadingWords, if_neg hword]
    rfl

theorem unitWords_eq_ok {l : Lexeme} {ls rest : List Lexeme} {words : List SourceToken}
    (h : read Grammar.unitWords (l :: ls) = .ok (words, rest)) :
    Grammar.isAnyWord l.token = true ∧ Grammar.leadingWords (l :: ls) = (words, rest) := by
  have hread := read_eq_ok h
  rw [unitWords_cons] at hread
  by_cases hword : Grammar.isAnyWord l.token = true
  · rw [if_pos hword] at hread
    exact ⟨hword, Except.ok.inj hread⟩
  · rw [if_neg hword] at hread
    cases hread

theorem solid_unitWords : Solid Token.never (read Grammar.unitWords) (read Grammar.unitWords) := by
  refine .of_at nofun fun l => ⟨fun input words rest h => ?_, fun hl rest words h => ?_,
    fun taken tail tail' words hexchange h => ?_⟩
  · obtain ⟨hword, hread⟩ := unitWords_eq_ok h
    rw [Grammar.leadingWords, if_pos hword] at hread
    have hsuffix := leadingWords_suffix input
    rwa [(Prod.mk.inj hread).2] at hsuffix
  · cases (unitWords_eq_ok h).1.symm.trans (isAnyWord_of_joins _ hl)
  · obtain ⟨hword, hread⟩ := unitWords_eq_ok h
    refine read_of_ok ?_
    rw [unitWords_cons, if_pos hword]
    rw [← List.cons_append] at hread ⊢
    exact congrArg Except.ok (leadingWords_frame hexchange hread)

theorem barePattern_leaves {behind? : Option Place} {l : Lexeme} {ls : List Lexeme} {pattern : String}
    (h : Grammar.barePattern behind? (l :: ls) = .ok (pattern, l :: ls)) :
    (l.token = .sign .comma ∨ l.token = .sign .rightParen) ∧ pattern = "" := by
  rw [Grammar.barePattern] at h
  by_cases hstop : l.token = .sign .comma ∨ l.token = .sign .rightParen
  · rw [if_pos hstop] at h
    exact ⟨hstop, (Prod.mk.inj (Except.ok.inj h)).1.symm⟩
  · rw [if_neg hstop] at h
    split at h
    · cases h
    · split at h
      case h_1 hmore =>
        obtain ⟨_, rfl⟩ := Prod.mk.inj (Except.ok.inj h)
        have hlength := (barePattern_suffix hmore).length_le
        rw [List.length_cons] at hlength
        omega
      case h_2 => cases h

/-- A pattern without quotes stops at the end, or at a lexeme at which it stops whatever follows. -/
theorem barePattern_frame {behind? : Option Place} {taken tail tail' : List Lexeme} {pattern : String}
    (hexchange : Exchange Token.never tail tail')
    (h : Grammar.barePattern behind? (taken ++ tail) = .ok (pattern, tail)) :
    Grammar.barePattern behind? (taken ++ tail') = .ok (pattern, tail') := by
  induction taken generalizing behind? pattern with
  | nil =>
    have hsame : ∀ l ls ls', Grammar.barePattern behind? (l :: ls) = .ok (pattern, l :: ls) →
        Grammar.barePattern behind? (l :: ls') = .ok (pattern, l :: ls') := by
      intro l ls ls' hread
      obtain ⟨hstop, rfl⟩ := barePattern_leaves hread
      rw [Grammar.barePattern, if_pos hstop]
    cases hexchange with
    | refl => exact h
    | head => exact hsame _ _ _ h
    | heads => exact hsame _ _ _ h
    | ends hends hends' =>
      rcases tail with _ | ⟨l, tail⟩
      · rcases tail' with _ | ⟨l', tail'⟩
        · exact h
        · cases hends' l' rfl
      · cases hends l rfl
  | cons l taken ih =>
    rw [List.cons_append, Grammar.barePattern] at h ⊢
    split at h
    case isTrue =>
      rw [← List.cons_append] at h
      exact absurd (List.append_left_eq_self.mp (Prod.mk.inj (Except.ok.inj h)).2) (List.cons_ne_nil l taken)
    case isFalse hgoes =>
      rw [if_neg hgoes]
      split at h
      case isTrue => cases h
      case isFalse hbehind =>
        rw [if_neg hbehind]
        split at h
        case h_1 hread =>
          obtain ⟨rfl, rfl⟩ := Prod.mk.inj (Except.ok.inj h)
          rw [ih hread]
        case h_2 => cases h

def barePatternAt (start : SourceToken) : Phrase SourceToken := fun input =>
  match Grammar.barePattern none input with
  | .error fault => ⟨[], .error fault⟩
  | .ok (pattern, rest) =>
    if pattern = "" then Phrase.unexpected "a DE-9IM pattern" rest
    else ⟨[], .ok (⟨pattern, start.place⟩, rest)⟩

theorem de9imPattern_eq :
    Grammar.de9imPattern = (do
      match ← Phrase.acceptIf Grammar.isQuotedPattern with
      | some pattern => return pattern
      | none => Phrase.here "a DE-9IM pattern" >>= barePatternAt) := rfl

theorem barePatternAt_eq_ok {start pattern : SourceToken} {input rest : List Lexeme}
    (h : (barePatternAt start input).outcome = .ok (pattern, rest)) :
    ∃ text, Grammar.barePattern none input = .ok (text, rest) ∧ text ≠ "" ∧ pattern = ⟨text, start.place⟩ := by
  unfold barePatternAt at h
  split at h
  case h_1 => cases h
  case h_2 text mid hread =>
    split at h
    case isTrue => cases mid <;> cases h
    case isFalse hempty =>
      cases h
      exact ⟨text, hread, hempty, rfl⟩

theorem barePatternAt_of_ok {start : SourceToken} {input rest : List Lexeme} {text : String}
    (h : Grammar.barePattern none input = .ok (text, rest)) (hempty : text ≠ "") :
    read (barePatternAt start) input = .ok (⟨text, start.place⟩, rest) := by
  refine read_of_ok ?_
  rw [barePatternAt, h]
  dsimp only
  rw [if_neg hempty]

theorem shortens_barePatternAt (start : SourceToken) : (barePatternAt start).Shortens := by
  intro input pattern rest h
  obtain ⟨text, hread, _, _⟩ := barePatternAt_eq_ok h
  exact barePattern_suffix hread

theorem barePatternAt_takes (start : SourceToken) (input : List Lexeme) (pattern : SourceToken) :
    read (barePatternAt start) input ≠ .ok (pattern, input) := by
  intro h
  obtain ⟨text, hread, hempty, rfl⟩ := barePatternAt_eq_ok (read_eq_ok h)
  rcases input with _ | ⟨l, input⟩
  · cases hread
    exact hempty rfl
  · exact hempty (barePattern_leaves hread).2

theorem isQuotedPattern_of_joins (token : Token) (h : token.joins = true) : Grammar.isQuotedPattern token = false := by
  rcases Token.eq_of_joins h with rfl | rfl <;> rfl

theorem solid_de9imPattern_bind {f f' : SourceToken → Translation β}
    (hf : ∀ pattern, Solid sort (f pattern) (f' pattern)) :
    Solid sort (read Grammar.de9imPattern >>= f) (read Grammar.de9imPattern >>= f') := by
  rw [de9imPattern_eq, Translation.read_phrase_bind, Translation.bind_assoc, Translation.bind_assoc]
  refine .acceptIf_bind isQuotedPattern_of_joins (fun pattern => (hf pattern).toFramed) ?_
  dsimp only
  rw [Translation.read_phrase_bind, Translation.bind_assoc, Translation.bind_assoc]
  refine .here_bind fun start => .taking_bind (suffix_read (shortens_barePatternAt start)) (barePatternAt_takes start)
    (fun taken tail tail' pattern hexchange h => ?_) hf
  obtain ⟨text, hread, hempty, rfl⟩ := barePatternAt_eq_ok (read_eq_ok h)
  exact barePatternAt_of_ok (barePattern_frame hexchange hread) hempty

/-! ### Spatial predicates -/

theorem solid_operand (h : m ≤ n) : Solid Token.endsOperand (Translation.operand u m) (Translation.operand u n) := by
  unfold Translation.operand
  cases u.dialect with
  | cql => exact solid_propertyName
  | ecql => exact solid_expression h

theorem solid_geometryOperand (h : m ≤ n) :
    Solid Token.endsOperand (Translation.geometryOperand u m) (Translation.geometryOperand u n) := by
  unfold Translation.geometryOperand
  cases u.dialect with
  | ecql => exact solid_expression h
  | cql =>
    refine Solid.peek_bind (.unexpected _) fun l => Solid.solidAt ?_ l
    split
    · exact solid_ofGeometry (solid_sridLiteral h)
    · exact solid_ofGeometry solid_envelope
    · exact solid_plainGeometry h
    · exact .unexpected _

theorem isFeatureId_of_joins (token : Token) (h : token.joins = true) : Grammar.isFeatureId token = false := by
  rcases Token.eq_of_joins h with rfl | rfl <;> rfl

theorem solid_featureIds : Solid sort (Translation.featureIds u) (Translation.featureIds u) :=
  .next_bind fun _ => (Solid.listed ((Solid.expectIf isFeatureId_of_joins _).bind fun _ => .complete u _ _ _)).bind
    fun _ => .complete u _ _ _

theorem solid_spatial (h : m ≤ n) (op : SpatialOp) :
    Solid sort (Translation.spatial u m op) (Translation.spatial u n op) :=
  .next_bind fun _ => (Solid.require rfl).bind_solid fun _ => (solid_operand h).inside.bind_solid fun _ =>
    (Solid.require rfl).bind_solid fun _ => (solid_geometryOperand h).inside.bind_solid fun _ =>
      (Solid.require rfl).bind fun _ => .complete u _ _ _

theorem solid_commaBound : Solid sort (Translation.commaBound u) (Translation.commaBound u) :=
  (Solid.require rfl).bind fun _ => solid_signedLiteral.toFramed

theorem solid_bbox (h : m ≤ n) : Solid sort (Translation.bbox u m) (Translation.bbox u n) :=
  .next_bind fun _ => (Solid.require rfl).bind_solid fun _ => (solid_operand h).inside.bind_solid fun _ =>
    solid_commaBound.bind_solid fun _ => solid_commaBound.bind_solid fun _ => solid_commaBound.bind_solid fun _ =>
      solid_commaBound.bind_solid fun _ => framed_referenceSystem.bind_solid fun _ => (Solid.require rfl).bind fun _ =>
        .complete u _ _ _

theorem solid_distance (h : m ≤ n) (op : DistanceOp) :
    Solid sort (Translation.distance u m op) (Translation.distance u n op) :=
  .next_bind fun _ => (Solid.require rfl).bind_solid fun _ => (solid_operand h).inside.bind_solid fun _ =>
    (Solid.require rfl).bind_solid fun _ => (solid_geometryOperand h).inside.bind_solid fun _ =>
      (Solid.require rfl).bind_solid fun _ => solid_signedLiteral.bind_solid fun _ =>
        (Solid.require rfl).bind_solid fun _ => solid_unitWords.bind_solid fun _ => (Solid.require rfl).bind fun _ =>
          .complete u _ _ _

theorem solid_relate (h : m ≤ n) : Solid sort (Translation.relate u m) (Translation.relate u n) := by
  refine .next_bind fun _ => (Solid.require rfl).bind_solid fun _ => (solid_operand h).inside.bind_solid fun _ =>
    (Solid.require rfl).bind_solid fun _ => (solid_geometryOperand h).inside.bind_solid fun _ =>
      .acceptIf_bind (sign_beq_of_joins rfl) (fun _ => ?_) ?_
  · exact Solid.toFramed (solid_de9imPattern_bind fun _ => (Framed.complete u _ _ _).bind_solid fun _ =>
      (Framed.complete u _ _ _).bind_solid fun _ => (Solid.require rfl).bind fun _ => .complete u _ _ _)
  · exact (Solid.require rfl).bind fun _ => .complete u _ _ _

/-! ### Tests of a value -/

theorem solid_inList (h : m ≤ n) (production : Production) (negated : Bool) (left : Expression) (token : SourceToken) :
    Solid sort (Translation.inList u m production negated left token)
      (Translation.inList u n production negated left token) :=
  (Solid.listed (.here_bind fun _ => (solid_expression h).inside.bind fun _ => .complete u _ _ _)).bind fun _ =>
    .complete u _ _ _

theorem isQuotedText_of_joins (token : Token) (h : token.joins = true) : Grammar.isQuotedText token = false := by
  rcases Token.eq_of_joins h with rfl | rfl <;> rfl

theorem solid_like (production : Production) (ignoringCase negated : Bool) (left : Expression) (token : SourceToken) :
    Solid sort (Translation.like u production ignoringCase negated left token)
      (Translation.like u production ignoringCase negated left token) :=
  (Solid.expectIf isQuotedText_of_joins _).bind fun _ => (Framed.complete u _ _ _).bind fun _ => .complete u _ _ _

theorem solid_between (h : m ≤ n) (production : Production) (negated : Bool) (left : Expression) (token : SourceToken) :
    Solid Token.endsOperand (Translation.between u m production negated left token)
      (Translation.between u n production negated left token) :=
  (solid_expression h).inside.bind_solid fun _ => (Solid.expectWord _).bind_solid fun _ =>
    (solid_expression h).bind fun _ => .complete u _ _ _

theorem solid_isNull (left : Expression) (token : SourceToken) :
    Solid sort (Translation.isNull u left token) (Translation.isNull u left token) := by
  have hnot : Framed Token.never (read (Phrase.acceptWord "NOT")) (read (Phrase.acceptWord "NOT")) := .acceptWord nofun
  exact hnot.bind_solid fun _ => (Solid.expectWord _).bind fun _ => .complete u _ _ _

theorem solid_negatedTest (h : m ≤ n) (left : Expression) (token : SourceToken) :
    Solid Token.endsOperand (Translation.negatedTest u m left token) (Translation.negatedTest u n left token) := by
  refine Solid.peek_bind (.unexpected _) fun l => Solid.solidAt ?_ l
  split
  · exact .next_bind fun _ => solid_inList h _ _ _ _
  · exact .next_bind fun _ => solid_like _ _ _ _ _
  · exact .next_bind fun _ => solid_like _ _ _ _ _
  · exact .next_bind fun _ => solid_between h _ _ _ _
  · exact .unexpected _

theorem solid_keywordTest (h : m ≤ n) (left : Expression) (keyword? : Option Keyword) :
    Solid Token.endsOperand (Translation.keywordTest u m left keyword?) (Translation.keywordTest u n left keyword?) := by
  unfold Translation.keywordTest
  split
  · exact .next_bind fun _ => solid_negatedTest h _ _
  · exact .next_bind fun _ => solid_inList h _ _ _ _
  · exact .next_bind fun _ => solid_like _ _ _ _ _
  · exact .next_bind fun _ => solid_like _ _ _ _ _
  · exact .next_bind fun _ => solid_between h _ _ _ _
  · exact .next_bind fun _ => solid_isNull _ _
  · exact .unexpected _

theorem solid_testOf (h : m ≤ n) (left : Expression) :
    Solid Token.endsOperand (Translation.testOf u m left) (Translation.testOf u n left) := by
  refine Solid.peek_bind (.unexpected _) fun l => Solid.solidAt ?_ l
  split
  · exact .unexpected _
  · split
    · exact .next_bind fun _ => (solid_expression h).bind fun _ => .complete u _ _ _
    · exact solid_keywordTest h left _

theorem solid_valueTest (h : m ≤ n) :
    Solid Token.endsOperand (Translation.valueTest u m) (Translation.valueTest u n) :=
  (solid_operand h).inside.bind_solid fun _ => solid_testOf h _

/-! ### Combinations -/

theorem joins_of_keyword {token : Token} {keyword : Keyword} (h : token.keyword? = some keyword) :
    token.joins = false := by
  cases token <;> first | rfl | cases h

theorem solidAt_simplePredicate (h : m ≤ n) (l : Lexeme) (called : Bool) :
    SolidAt Token.endsOperand l (Translation.simplePredicate u m l.token.keyword? called)
      (Translation.simplePredicate u n l.token.keyword? called) := by
  unfold Translation.simplePredicate
  split
  case h_1 hkeyword => exact .next_bind (joins_of_keyword hkeyword) fun _ => .complete u _ _ _
  case h_2 hkeyword => exact .next_bind (joins_of_keyword hkeyword) fun _ => .complete u _ _ _
  case h_3 => exact (solid_spatial h _).solidAt l
  case h_4 => exact solid_featureIds.solidAt l
  case h_5 =>
    split
    · exact solid_featureIds.solidAt l
    · exact (solid_valueTest h).solidAt l
  case h_6 => exact (solid_bbox h).solidAt l
  case h_7 => exact (solid_distance h _).solidAt l
  case h_8 => exact (solid_distance h _).solidAt l
  case h_9 => exact (solid_relate h).solidAt l
  case h_10 => exact (solid_valueTest h).solidAt l

theorem joins_of_closingSign {dialect : Dialect} {token : Token} {closing : Sign}
    (h : Grammar.closingSign? dialect token = some closing) : (Token.sign closing).joins = false := by
  unfold Grammar.closingSign? at h
  split at h <;> cases h <;> rfl

theorem solid_primary (h : m ≤ n) {group? group'? : Option (Translation Predicate)}
    (hgroup : ∀ group, group? = some group → ∃ group', group'? = some group' ∧ Solid Token.never group group') :
    Solid Token.endsOperand (Translation.primary u m group?) (Translation.primary u n group'?) := by
  refine Solid.peek_bind (.unexpected _) fun l => ?_
  dsimp only
  split
  case h_1 closing hclosing =>
    refine Solid.solidAt (.next_bind fun opener => ?_) l
    exact (Solid.nested hgroup opener).bind_solid fun _ => (Solid.require (joins_of_closingSign hclosing)).map _
  case h_2 => exact .parenFollows_bind fun _ => solidAt_simplePredicate h l _

theorem solid_joined {word : String} (hword : ∀ token, sort token = true → token.isWord word = false)
    (production : Production) (combine : Predicate → Predicate → Predicate) {item item' : Translation Predicate}
    (hitem : Solid sort item item') :
    Solid sort (Translation.joined u word production combine item) (Translation.joined u word production combine item') :=
  hitem.bind fun _ => (Framed.repeatAfter (separates_acceptWord hword) fun _ =>
    hitem.toFramed.bind fun _ => .complete u _ _ _).map _

theorem isWord_of_endsFilter (word : String) (token : Token) (h : token.endsFilter = true) : token.isWord word = false := by
  cases token <;> first | rfl | cases h

theorem solid_disjunctionOf {negation negation' : Translation Predicate}
    (h : Solid Token.endsOperand negation negation') :
    Solid Token.endsFilter (Translation.disjunctionOf u negation) (Translation.disjunctionOf u negation') :=
  solid_joined (isWord_of_endsFilter _) _ _
    (solid_joined (isWord_of_endsFilter _) _ _ (h.mono Token.endsOperand_of_endsFilter))

theorem solid_negationWith (h : m ≤ n) {inner? inner'? : Option (Translation Predicate)}
    (hinner : ∀ inner, inner? = some inner → ∃ inner', inner'? = some inner' ∧ Solid Token.endsOperand inner inner') :
    Solid Token.endsOperand (Translation.negationWith u m inner?) (Translation.negationWith u n inner'?) := by
  refine .acceptIf_bind (fun token htoken => Token.isWord_of_joins htoken _)
    (fun token => (Solid.nested hinner token).toFramed.bind fun _ => .complete u _ _ _) ?_
  refine solid_primary h fun group hgroup => ?_
  obtain ⟨inner, hinner', rfl⟩ := Option.map_eq_some_iff.mp hgroup
  obtain ⟨inner', rfl, hsolid⟩ := hinner inner hinner'
  exact ⟨_, rfl, (solid_disjunctionOf hsolid).inside⟩

/-- What reads the negations one level deeper, if there is a level left. -/
def Translation.deeperNegation (u : Setting) : Nat → Option (Translation Predicate)
  | 0 => none
  | levels + 1 => some (negation u levels)

theorem Translation.negation_eq (u : Setting) (levels : Nat) :
    negation u levels = negationWith u levels (deeperNegation u levels) := by
  cases levels <;> rfl

theorem solid_negation (h : m ≤ n) :
    Solid Token.endsOperand (Translation.negation u m) (Translation.negation u n) := by
  induction m generalizing n with
  | zero =>
    rw [Translation.negation_eq, Translation.negation_eq u n]
    exact solid_negationWith h (by nofun)
  | succ m ih =>
    obtain ⟨n, rfl⟩ := Nat.exists_eq_add_of_le' (Nat.one_le_of_lt h)
    rw [Translation.negation_eq, Translation.negation_eq]
    refine solid_negationWith h fun inner hinner => ?_
    cases hinner
    exact ⟨_, rfl, ih (Nat.le_of_succ_le_succ h)⟩

/-- What stands behind a filter makes no difference to it, and neither do more levels than it needs. -/
theorem solid_filter (h : m ≤ n) : Solid Token.endsFilter (Translation.filter u m) (Translation.filter u n) :=
  solid_disjunctionOf (solid_negation h)

end GeoFilter
