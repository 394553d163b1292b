import GeoFilter.Proofs.NineIntersection
import GeoFilter.Proofs.Rectangle.Statement
import GeoFilter.Proofs.Tokenizer
import GeoFilter.Proofs.Yield.Lexemes

/-!
# Relations by a pattern

RELATE, an attribute, a geometry text and a pattern make a call that is compared with the value true.  The pattern is
checked behind the geometry and in front of the closing parenthesis, whichever way it is written; without quotes its
pieces have to stand right behind each other.
-/

namespace GeoFilter

open Scan (Cuts Standing)
open Translation (read complete bind_of_ok bind_of_error bind_eq_ok read_of_ok read_eq_ok complete_of_permits)

variable {u : Setting} {levels : Nat}

/-! ### In front of a pattern -/

theorem yields_geometryOperand (hpermits : ∀ red, u.permits red = true) {t : GeometryText} (hdepth : t.depth ≤ levels) :
    Yields (Translation.geometryOperand u levels) t.tokens (Followed [.comma])
      (t.value?.map fun g => .literal (.geometry ⟨g, none⟩)) := by
  have hcomma : ∀ r, Followed [.comma] r → EndsExpression r := by
    intro r hr token htoken
    obtain ⟨r', rfl⟩ := List.head?_eq_some_iff.mp htoken
    obtain ⟨sign, hsign, rfl⟩ := hr token r' rfl
    rw [List.mem_singleton.mp hsign]
    rfl
  unfold Translation.geometryOperand
  cases u.dialect with
  | ecql => exact .expression_of_factor hcomma ((yields_factor hpermits hdepth).mono fun _ _ => trivial)
  | cql =>
    have hgeometry := (yields_plainGeometry hpermits hdepth).mono (G := Followed [.comma]) fun _ _ => trivial
    obtain ⟨shape, text, ts, hword, htokens⟩ := t.tokens_cons
    have hkeyword : (Token.word text none).keyword? = some (.shape shape) := hword
    rw [htokens] at hgeometry ⊢
    refine .peek_bind ?_
    rw [Option.bind_some, hkeyword]
    exact hgeometry

/-- The tokens of RELATE, an attribute and a geometry text in front of a pattern. -/
def relateTokens (word : String) (name : AttributeName) (t : GeometryText) : List Token :=
  .word word none :: .sign .leftParen :: (name.tokens ++ .sign .comma :: (t.tokens ++ [.sign .comma]))

namespace Translation

/-- What follows the geometry and the comma in a relation by a pattern. -/
def patternTest (u : Setting) (keyword : SourceToken) (left right : Expression) : Translation Predicate := do
  let pattern ← read Grammar.de9imPattern
  complete u .stringLiteral [pattern] (.ok ())
  complete u .de9imPattern [pattern] (de9imOf pattern)
  read (Phrase.require .rightParen)
  complete u .relatePattern [keyword] (.ok (related u.kit.factory "relatePattern"
    [left, right, u.kit.factory.literal (.string pattern.text)]))

end Translation

section Front

variable (hu : u.IsPlain) {word : String} {name : AttributeName} (hname : name.IsAttribute u.dialect) {t : GeometryText}
  (hdepth : t.depth ≤ levels) {front : List Lexeme} (hfront : tokensOf front = relateTokens word name t)
  (back : List Lexeme)

include hu hname hdepth hfront

/-- Behind its operands and a comma a relation goes on with a pattern, unless the coordinates of the second operand make
no geometry. -/
theorem relate_front :
    (∀ g, t.value? = some g → ∃ keyword, Translation.relate u levels (front ++ back) =
      Translation.patternTest u keyword (.property name.path) (.literal (.geometry ⟨g, none⟩)) back) ∧
    (t.value? = none → ∃ e token,
      Translation.relate u levels (front ++ back) = .error (.finding ⟨.degenerateGeometry e, token, none⟩)) := by
  obtain ⟨wordPlace, called, rfl, hcalled⟩ := tokensOf_eq_cons hfront
  obtain ⟨parenPlace, arguments, rfl, harguments⟩ := tokensOf_eq_cons hcalled
  obtain ⟨operand, second, rfl, hoperand, hsecond⟩ := List.map_eq_append_iff.mp harguments
  obtain ⟨commaPlace, others, rfl, hothers⟩ := tokensOf_eq_cons hsecond
  obtain ⟨geometry, last, rfl, hgeometry, hlast⟩ := List.map_eq_append_iff.mp hothers
  obtain ⟨commaPlace', rest, rfl, hrest⟩ := tokensOf_eq_cons hlast
  obtain rfl := List.map_eq_nil_iff.mp hrest
  set behind : List Lexeme := ⟨.sign .comma, commaPlace'⟩ :: back with hbehind
  have hlexemes : ⟨.word word none, wordPlace⟩ :: ⟨.sign .leftParen, parenPlace⟩ ::
      (operand ++ ⟨.sign .comma, commaPlace⟩ :: (geometry ++ [⟨.sign .comma, commaPlace'⟩])) ++ back =
      ⟨.word word none, wordPlace⟩ :: ⟨.sign .leftParen, parenPlace⟩ ::
        (operand ++ ⟨.sign .comma, commaPlace⟩ :: (geometry ++ behind)) := by simp [hbehind]
  have hleft : Translation.operand u levels (operand ++ ⟨.sign .comma, commaPlace⟩ :: (geometry ++ behind)) =
      .ok (.property name.path, ⟨.sign .comma, commaPlace⟩ :: (geometry ++ behind)) :=
    (Yields.operand_before_comma hu hname).reads (solid_operand (Nat.le_refl levels)).suffix hoperand
      (followed_cons (by simp) _)
  have hright := yields_geometryOperand hu.permits hdepth
  obtain ⟨goOn, hstart, hcomma⟩ : ∃ goOn : Expression → Translation Predicate,
      Translation.relate u levels (⟨.word word none, wordPlace⟩ :: ⟨.sign .leftParen, parenPlace⟩ ::
        (operand ++ ⟨.sign .comma, commaPlace⟩ :: (geometry ++ behind))) =
          (Translation.geometryOperand u levels >>= goOn) (geometry ++ behind) ∧
      ∀ right, goOn right behind =
        Translation.patternTest u ⟨word, wordPlace⟩ (.property name.path) right back := by
    refine ⟨?goOn, ?start, fun right => ?comma⟩
    case start =>
      rw [Translation.relate, bind_of_ok (read_of_ok rfl), bind_of_ok (read_of_ok (require_sign ..)), bind_of_ok hleft,
        bind_of_ok (read_of_ok (require_sign ..))]
    case comma =>
      rw [hbehind, bind_of_ok (read_of_ok (accept_sign ..))]
      rfl
  rw [hlexemes, hstart]
  constructor
  · intro g hg
    rw [hg] at hright
    refine ⟨⟨word, wordPlace⟩, ?_⟩
    rw [bind_of_ok (hright.reads (solid_geometryOperand (Nat.le_refl levels)).suffix hgeometry
      (followed_cons (by simp) _)), hcomma]
  · intro hg
    rw [hg] at hright
    obtain ⟨e, token, hfound⟩ := hright (geometry ++ behind) (tokensOf behind)
      (by rw [tokensOf, List.map_append]; exact congrArg (· ++ _) hgeometry) (followed_cons (by simp) _)
    exact ⟨e, token, bind_of_error hfound⟩

end Front

/-! ### The pattern -/

section Pattern

variable {keyword : SourceToken} {left right : Expression} {back rest : List Lexeme} {pattern : SourceToken}

theorem patternTest_of_valid (hu : u.IsPlain) {place : Place}
    (hread : read Grammar.de9imPattern back = .ok (pattern, ⟨.sign .rightParen, place⟩ :: rest))
    (hvalid : IsNineIntersection pattern.text) :
    Translation.patternTest u keyword left right back =
      .ok (related .plain "relatePattern" [left, right, .literal (.string pattern.text)], rest) := by
  have hchecked : de9imOf pattern = .ok () := if_pos (isDe9im_iff.mpr hvalid)
  rw [Translation.patternTest, bind_of_ok hread, bind_of_ok (complete_of_permits (hu.permits _) _ _), hchecked,
    bind_of_ok (complete_of_permits (hu.permits _) _ _), bind_of_ok (read_of_ok (require_sign ..)), hu.factory]
  exact complete_of_permits (hu.permits _) _ _

theorem patternTest_of_invalid (hu : u.IsPlain) (hread : read Grammar.de9imPattern back = .ok (pattern, rest))
    (hinvalid : ¬IsNineIntersection pattern.text) :
    Translation.patternTest u keyword left right back =
      .error (.finding ⟨.invalidDe9im pattern.text, pattern, none⟩) := by
  have hchecked : de9imOf pattern = .error ⟨.invalidDe9im pattern.text, pattern, none⟩ :=
    if_neg (isDe9im_iff.not.mpr hinvalid)
  rw [Translation.patternTest, bind_of_ok hread, bind_of_ok (complete_of_permits (hu.permits _) _ _), hchecked]
  exact bind_of_error (by rw [complete, if_pos (hu.permits _)])

theorem patternTest_eq_ok {p : Predicate} (h : Translation.patternTest u keyword left right back = .ok (p, rest)) :
    ∃ pattern place, read Grammar.de9imPattern back = .ok (pattern, ⟨.sign .rightParen, place⟩ :: rest) ∧
      IsNineIntersection pattern.text := by
  obtain ⟨pattern, mid, hread, hliteral⟩ := bind_eq_ok h
  obtain ⟨_, _, hcompleted, hcheck⟩ := bind_eq_ok hliteral
  obtain ⟨-, -, rfl⟩ := Translation.complete_eq_ok hcompleted
  obtain ⟨_, _, hchecked, hclose⟩ := bind_eq_ok hcheck
  obtain ⟨-, hvalid, rfl⟩ := Translation.complete_eq_ok hchecked
  obtain ⟨_, _, hclosed, hrelated⟩ := bind_eq_ok hclose
  obtain ⟨place, rfl⟩ := Phrase.require_eq_ok (read_eq_ok hclosed)
  obtain ⟨-, -, rfl⟩ := Translation.complete_eq_ok hrelated
  exact ⟨pattern, place, hread, isDe9im_iff.mp (isDe9im_of_de9imOf hvalid)⟩

theorem de9imPattern_quoted {l : Lexeme} (hl : Grammar.isQuotedPattern l.token = true) (rest : List Lexeme) :
    read Grammar.de9imPattern (l :: rest) = .ok (l.source, rest) := by
  rw [de9imPattern_eq, Translation.read_phrase_bind, bind_of_ok (read_acceptIf_of_pos hl rest)]
  rfl

theorem de9imPattern_bare {l : Lexeme} (hl : Grammar.isQuotedPattern l.token = false) (rest : List Lexeme) :
    read Grammar.de9imPattern (l :: rest) = read (barePatternAt l.source) (l :: rest) := by
  rw [de9imPattern_eq, Translation.read_phrase_bind,
    bind_of_ok (read_acceptIf_of_neg (by rw [hl]; exact Bool.false_ne_true) rest)]
  dsimp only
  rw [Translation.read_phrase_bind]
  rfl

theorem de9imPattern_of_standFrom {place : Place} {pieces : List Lexeme} (hstand : StandFrom place pieces)
    (hpieces : ∀ l ∈ pieces, l.token.isPatternPiece = true ∧ Grammar.isQuotedPattern l.token = false) {text : String}
    (htext : spelled (tokensOf pieces) = text) (hne : text ≠ "") {close : Lexeme}
    (hclose : close.token.isPatternPiece = false) (rest : List Lexeme) :
    ∃ start, read Grammar.de9imPattern (pieces ++ close :: rest) = .ok (⟨text, start⟩, close :: rest) := by
  rcases pieces with _ | ⟨l, pieces⟩
  · exact absurd htext.symm hne
  · refine ⟨l.place, ?_⟩
    have hbehind : ∀ p ∈ (none : Option Place), p = place := nofun
    have hread := barePattern_of_standFrom hstand (fun x hx => (hpieces x hx).1) hbehind hclose rest
    rw [htext] at hread
    rw [List.cons_append, de9imPattern_bare (hpieces l List.mem_cons_self).2]
    exact barePatternAt_of_ok hread hne

theorem mem_pieces {ls : List Lexeme} {l : Lexeme} (h : ∀ x ∈ ls ++ [l], x.token.isPatternPiece = true)
    (behind : List Lexeme) : l.token ∈ (tokensOf (ls ++ l :: behind)).takeWhile Token.isPatternPiece := by
  have hfront : ∀ token ∈ (ls ++ [l]).map Lexeme.token, token.isPatternPiece = true := List.forall_mem_map.mpr h
  rw [List.append_cons, tokensOf, List.map_append, List.takeWhile_append_of_pos hfront]
  exact List.mem_append_left _ (List.mem_map_of_mem (by simp))

theorem not_nineIntersection_of_apart {start place : Place} {text : List Char} {l l' : Lexeme}
    (s : Standing start text l) (s' : Standing start text l') (hapart : s.before ++ s.chars ≠ s'.before)
    {ls behind : List Lexeme} (hpieces : ∀ x ∈ ls ++ [l, l'], x.token.isPatternPiece = true)
    (hread : read Grammar.de9imPattern (ls ++ l :: l' :: behind) = .ok (pattern, ⟨.sign .rightParen, place⟩ :: rest)) :
    ¬IsNineIntersection pattern.text := by
  intro hvalid
  obtain ⟨x, y, more, hinput, hy⟩ : ∃ x y more, ls ++ l :: l' :: behind = x :: y :: more ∧
      y.token.isPatternPiece = true := by
    rcases ls with _ | ⟨x, _ | ⟨y, ls⟩⟩
    · exact ⟨l, l', behind, rfl, hpieces l' (by simp)⟩
    · exact ⟨x, l, l' :: behind, rfl, hpieces l (by simp)⟩
    · exact ⟨x, y, ls ++ l :: l' :: behind, rfl, hpieces y (by simp)⟩
  cases hquoted : Grammar.isQuotedPattern x.token with
  | true =>
    -- Behind quotes the next piece stands where the parenthesis has to be.
    rw [hinput, de9imPattern_quoted hquoted] at hread
    cases hread
    cases hy
  | false =>
    rw [hinput, de9imPattern_bare hquoted, ← hinput] at hread
    obtain ⟨text', hbare, -, rfl⟩ := barePatternAt_eq_ok (read_eq_ok hread)
    have htext : text' = spelled ((tokensOf (ls ++ l :: l' :: behind)).takeWhile Token.isPatternPiece) := by
      rcases barePattern_cases none (ls ++ l :: l' :: behind) with ⟨token, hfault⟩ | hall
      · cases hfault.symm.trans hbare
      · exact (Prod.mk.inj (Except.ok.inj (hbare.symm.trans hall))).1
    have hspelled : Scan.SpelledInPattern l.token := by
      intro c hc
      refine Scan.mem_patternChars (hvalid.2 c ?_)
      rw [htext]
      have hfront : ∀ x ∈ ls ++ [l], x.token.isPatternPiece = true := fun x hx =>
        hpieces x (by rw [List.append_cons]; exact List.mem_append_left [l'] hx)
      exact toList_spelling_subset (mem_pieces hfront _) hc
    have hplace : start.after (s.before ++ s.chars) = start.after s'.before := by
      rw [← s.behind_eq hspelled, ← place_eq_behind hbare hpieces, s'.place_eq]
    exact hapart (Place.eq_of_after_eq s.chars_prefix s'.before_prefix hplace)

end Pattern

/-! ### Statements -/

/-- The relation of an attribute to a geometry by a pattern. -/
def patternRelation (name : AttributeName) (g : Geometry) (pattern : String) : Predicate :=
  .comparison .eq
    (.function "relatePattern" [.property name.path, .literal (.geometry ⟨g, none⟩), .literal (.string pattern)])
    (.literal (.boolean true))

section Compiled

variable {compiler : Compiler} (hplain : compiler.toolkit.factory = .plain) {word : String}
  (hword : Keyword.ofText? word = some .RELATE) {name : AttributeName} (hname : name.IsAttribute compiler.dialect)
  {t : GeometryText} (hdepth : t.depth ≤ maxNesting) {statement : String} {front back : List Lexeme}
  (hscan : scan statement = .ok (front ++ back)) (hfront : tokensOf front = relateTokens word name t)

include hword hfront in
theorem negation_eq_relate :
    Translation.negation u levels (front ++ back) = Translation.relate u levels (front ++ back) := by
  obtain ⟨wordPlace, called, rfl, hcalled⟩ := tokensOf_eq_cons hfront
  obtain ⟨parenPlace, arguments, rfl, -⟩ := tokensOf_eq_cons hcalled
  exact Translation.negation_eq_simplePredicate hword nofun wordPlace parenPlace (arguments ++ back)

include hplain hword hname hdepth hscan hfront

theorem compileFilter_of_pattern {g : Geometry} (hg : t.value? = some g) {pattern : SourceToken} {place : Place}
    (hread : read Grammar.de9imPattern back = .ok (pattern, [⟨.sign .rightParen, place⟩]))
    (hvalid : IsNineIntersection pattern.text) :
    (compiler.compileFilter statement).result = .ok (patternRelation name g pattern.text) := by
  have hu := Compiler.isPlain_setting hplain
  obtain ⟨keyword, hrelate⟩ := (relate_front hu hname hdepth hfront back).1 g hg
  refine compileFilter_of_ok hscan (Translation.filter_of_negation ?_)
  rw [negation_eq_relate hword hfront, hrelate]
  exact patternTest_of_valid hu hread hvalid

theorem compileFilter_of_noPattern {g : Geometry} (hg : t.value? = some g) {pattern : SourceToken} {rest : List Lexeme}
    (hread : read Grammar.de9imPattern back = .ok (pattern, rest)) (hinvalid : ¬IsNineIntersection pattern.text) :
    (compiler.compileFilter statement).result =
      .error (.error (Finding.inStatement ⟨.invalidDe9im pattern.text, pattern, none⟩ statement)) := by
  have hu := Compiler.isPlain_setting hplain
  obtain ⟨keyword, hrelate⟩ := (relate_front hu hname hdepth hfront back).1 g hg
  refine compileFilter_of_finding hscan (Translation.filter_stops ?_)
  rw [negation_eq_relate hword hfront, hrelate]
  exact patternTest_of_invalid hu hread hinvalid

theorem compileFilter_of_noGeometry (hg : t.value? = none) :
    ∃ e token, (compiler.compileFilter statement).result =
      .error (.error (Finding.inStatement ⟨.degenerateGeometry e, token, none⟩ statement)) := by
  have hu := Compiler.isPlain_setting hplain
  obtain ⟨e, token, hrelate⟩ := (relate_front hu hname hdepth hfront back).2 hg
  refine ⟨e, token, compileFilter_of_finding hscan (Translation.filter_stops ?_)⟩
  rw [negation_eq_relate hword hfront]
  exact hrelate

theorem read_of_compileFilter {p : Predicate} (h : (compiler.compileFilter statement).result = .ok p) :
    ∃ pattern place rest, read Grammar.de9imPattern back = .ok (pattern, ⟨.sign .rightParen, place⟩ :: rest) ∧
      IsNineIntersection pattern.text := by
  have hu := Compiler.isPlain_setting hplain
  rw [compileFilter_eq_ok_iff hscan, makesFilter_iff] at h
  obtain ⟨q, rest, hnegation, -⟩ := negation_of_filter h
  rw [negation_eq_relate hword hfront] at hnegation
  cases hg : t.value? with
  | none =>
    obtain ⟨e, token, hrelate⟩ := (relate_front hu hname hdepth hfront back).2 hg
    cases hrelate.symm.trans hnegation
  | some g =>
    obtain ⟨keyword, hrelate⟩ := (relate_front hu hname hdepth hfront back).1 g hg
    obtain ⟨pattern, place, hread, hvalid⟩ := patternTest_eq_ok (hrelate.symm.trans hnegation)
    exact ⟨pattern, place, rest, hread, hvalid⟩

end Compiled

/-- A pattern in a statement, with a parenthesis behind it, is cut into pieces of which it is read. -/
theorem read_patternText {statement pattern : String} {front back : List Lexeme}
    (hscan : scan statement = .ok (front ++ back)) (hpattern : IsNineIntersection pattern) {before after : List Char}
    (htext : statement.toList = before ++ pattern.toList ++ after) (hafter : Cuts after [.sign .rightParen])
    (hplace : back.head?.map Lexeme.place = some (Place.start.after before)) :
    ∃ start place, read Grammar.de9imPattern back = .ok (⟨pattern, start⟩, [⟨.sign .rightParen, place⟩]) := by
  obtain ⟨l, hl, hstarts⟩ := Option.map_eq_some_iff.mp hplace
  obtain ⟨others, rfl⟩ := List.head?_eq_some_iff.mp hl
  have hchars : Scan.scanChars 0 Place.start (before ++ (pattern.toList ++ after)) = .ok (front ++ l :: others) := by
    rw [← List.append_assoc, ← htext]
    exact scanChars_of_scan hscan
  obtain ⟨hword, hnumber⟩ := Scan.ends_of_cuts hafter
  obtain ⟨pieces, closing, hpieces, hclosing, hstand, hspelled, hkinds⟩ := Scan.scanChars_pattern
    (fun c hc => Scan.mem_patternChars (hpattern.2 c hc)) hword hnumber (lawful_scanChars.resumed hchars hstarts)
  obtain ⟨lexemes, hlexemes, htokens⟩ := hafter (l.place.after pattern.toList)
  obtain rfl := Except.ok.inj (hclosing.symm.trans hlexemes)
  obtain ⟨place, rest, rfl, hrest⟩ := tokensOf_eq_cons htokens
  obtain rfl := List.map_eq_nil_iff.mp hrest
  have hne : pattern ≠ "" := by
    rintro rfl
    cases hpattern.1
  have hclose : (⟨.sign .rightParen, place⟩ : Lexeme).token.isPatternPiece = false := rfl
  obtain ⟨start, hread⟩ :=
    de9imPattern_of_standFrom hstand hkinds (String.toList_inj.mp hspelled) hne hclose []
  rw [hpieces]
  exact ⟨start, place, hread⟩

/-- **Relations by a pattern.**  In each dialect, for every attribute, every geometry text that makes a geometry and has at
most as many collections open as a statement may nest, RELATE with a pattern between quotes of either kind compiles if and
only if the pattern is one of the nine-intersection model, and otherwise the pattern is found to be none, at its place.
Written without quotes, however it is cut, such a pattern compiles to the same predicate; but pieces that do not all stand
right behind each other never compile.  A geometry text of which the coordinates make no geometry is found before any
pattern is looked at. -/
theorem relate_pattern_compiled {compiler : Compiler} (hplain : compiler.toolkit.factory = .plain) {word : String}
    (hword : Keyword.ofText? word = some .RELATE) {name : AttributeName} (hname : name.IsAttribute compiler.dialect)
    {t : GeometryText} (hdepth : t.depth ≤ maxNesting) {statement : String} {front back : List Lexeme}
    (hscan : scan statement = .ok (front ++ back)) (hfront : tokensOf front = relateTokens word name t) :
    (∀ g, t.value? = some g →
      (∀ pattern, (∀ l close, back = [l, close] → close.token = .sign .rightParen →
        l.token = .quoted pattern ∨ (∃ quote, l.token = .word pattern (some quote)) →
          ((∃ p, (compiler.compileFilter statement).result = .ok p) ↔ IsNineIntersection pattern) ∧
          (IsNineIntersection pattern →
            (compiler.compileFilter statement).result = .ok (patternRelation name g pattern)) ∧
          (¬IsNineIntersection pattern → (compiler.compileFilter statement).result =
            .error (.error (Finding.inStatement ⟨.invalidDe9im pattern, ⟨pattern, l.place⟩, none⟩ statement)))) ∧
        ∀ before after, IsNineIntersection pattern → statement.toList = before ++ pattern.toList ++ after →
          Cuts after [.sign .rightParen] → back.head?.map Lexeme.place = some (Place.start.after before) →
            (compiler.compileFilter statement).result = .ok (patternRelation name g pattern))) ∧
    (∀ ls l l' rest, back = ls ++ l :: l' :: rest → (∀ x ∈ ls ++ [l, l'], x.token.isPatternPiece = true) →
      ∀ (s : Standing Place.start statement.toList l) (s' : Standing Place.start statement.toList l'),
        s.before ++ s.chars ≠ s'.before → ∀ p, (compiler.compileFilter statement).result ≠ .ok p) ∧
    (t.value? = none → ∃ e token, (compiler.compileFilter statement).result =
      .error (.error (Finding.inStatement ⟨.degenerateGeometry e, token, none⟩ statement))) := by
  refine ⟨fun g hg pattern => ⟨fun l close hback hclose hl => ?_, fun before after hvalid htext hafter hplace => ?_⟩,
    fun ls l l' rest hback hpieces s s' hapart p hp => ?_,
    compileFilter_of_noGeometry hplain hword hname hdepth hscan hfront⟩
  · obtain ⟨hquoted, htext⟩ : Grammar.isQuotedPattern l.token = true ∧ l.source = ⟨pattern, l.place⟩ := by
      obtain ⟨token, place⟩ := l
      rcases hl with rfl | ⟨quote, rfl⟩ <;> exact ⟨rfl, rfl⟩
    obtain ⟨token, place⟩ := close
    obtain rfl : token = .sign .rightParen := hclose
    have hread : read Grammar.de9imPattern back = .ok (⟨pattern, l.place⟩, [⟨.sign .rightParen, place⟩]) := by
      rw [hback, de9imPattern_quoted hquoted, htext]
    have hvalid : IsNineIntersection pattern →
        (compiler.compileFilter statement).result = .ok (patternRelation name g pattern) :=
      compileFilter_of_pattern hplain hword hname hdepth hscan hfront hg hread
    have hinvalid := compileFilter_of_noPattern hplain hword hname hdepth hscan hfront hg hread
    refine ⟨⟨?_, fun h => ⟨_, hvalid h⟩⟩, hvalid, hinvalid⟩
    rintro ⟨p, hp⟩
    refine Decidable.byContradiction fun h => ?_
    cases (hinvalid h).symm.trans hp
  · obtain ⟨start, place, hread⟩ := read_patternText hscan hvalid htext hafter hplace
    exact compileFilter_of_pattern hplain hword hname hdepth hscan hfront hg hread hvalid
  · obtain ⟨pattern, place, closing, hread, hvalid⟩ := read_of_compileFilter hplain hword hname hdepth hscan hfront hp
    rw [hback] at hread
    exact not_nineIntersection_of_apart s s' hapart hpieces hread hvalid

/-- A pattern in three spellings, another text, and a pattern with a blank in it. -/
theorem relate_pattern_compiled_spellings :
    let compiler : Compiler := ⟨.ecql, ⟨.plain, CrsRegistry.wellKnown.resolver⟩⟩
    (∃ p, (compiler.compileFilter "RELATE(a, POINT(1 2), 'T*f012F*T')").result = .ok p ∧
      (compiler.compileFilter "RELATE(a, POINT(1 2), \"T*f012F*T\")").result = .ok p ∧
      (compiler.compileFilter "RELATE(a, POINT(1 2), T*f012F*T)").result = .ok p) ∧
    (compiler.compileFilter "RELATE(a, POINT(1 2), 'T')").result = .error (.error
      (Finding.inStatement ⟨.invalidDe9im "T", ⟨"T", ⟨1, 23⟩⟩, none⟩ "RELATE(a, POINT(1 2), 'T')")) ∧
    ∀ p, (compiler.compileFilter "RELATE(a, POINT(1 2), T*f012 F*T)").result ≠ .ok p := by
  intro compiler
  let name : AttributeName := ⟨"a", none, []⟩
  let t : GeometryText := .point ⟨"POINT", by decide +kernel⟩ ⟨⟨false, "1", false, .integer 1, rfl⟩,
    ⟨false, "2", false, .integer 2, rfl⟩⟩
  obtain ⟨g, hg⟩ : ∃ g, t.value? = some g := ⟨_, rfl⟩
  let front (statement : String) : List Lexeme := ((scan statement).toOption.getD []).take 10
  let back (statement : String) : List Lexeme := ((scan statement).toOption.getD []).drop 10
  have hplain : compiler.toolkit.factory = .plain := rfl
  have hname : name.IsAttribute compiler.dialect := fun _ => by decide +kernel
  have hcompiled := fun (statement : String) (hscan : scan statement = .ok (front statement ++ back statement))
      (hfront : tokensOf (front statement) = relateTokens "RELATE" name t) =>
    relate_pattern_compiled hplain (by decide +kernel) hname (Nat.zero_le _) hscan hfront
  have hvalid : IsNineIntersection "T*f012F*T" := by decide +kernel
  refine ⟨⟨patternRelation name g "T*f012F*T", ?_, ?_, ?_⟩, ?_, ?_⟩
  · exact (((hcompiled "RELATE(a, POINT(1 2), 'T*f012F*T')" (by decide +kernel) (by decide +kernel)).1 _ hg _).1
      _ _ rfl rfl (.inl rfl)).2.1 hvalid
  · exact (((hcompiled "RELATE(a, POINT(1 2), \"T*f012F*T\")" (by decide +kernel) (by decide +kernel)).1 _ hg _).1
      _ _ rfl rfl (.inr ⟨_, rfl⟩)).2.1 hvalid
  · exact ((hcompiled "RELATE(a, POINT(1 2), T*f012F*T)" (by decide +kernel) (by decide +kernel)).1 _ hg _).2
      "RELATE(a, POINT(1 2), ".toList [')'] hvalid (by decide +kernel) (fun _ => ⟨_, rfl, rfl⟩) (by decide +kernel)
  · exact (((hcompiled "RELATE(a, POINT(1 2), 'T')" (by decide +kernel) (by decide +kernel)).1 _ hg _).1
      _ _ rfl rfl (.inl rfl)).2.2 (by decide +kernel)
  · let statement := "RELATE(a, POINT(1 2), T*f012 F*T)"
    let s : Standing Place.start statement.toList ⟨.word "f012" none, ⟨1, 25⟩⟩ :=
      ⟨"RELATE(a, POINT(1 2), T*".toList, 'f', "012 F*T)".toList, 3, by decide +kernel, by decide +kernel, by decide +kernel⟩
    let s' : Standing Place.start statement.toList ⟨.word "F" none, ⟨1, 30⟩⟩ :=
      ⟨"RELATE(a, POINT(1 2), T*f012 ".toList, 'F', "*T)".toList, 0, by decide +kernel, by decide +kernel, by decide +kernel⟩
    exact (hcompiled statement (by decide +kernel) (by decide +kernel)).2.1 [⟨.word "T" none, ⟨1, 23⟩⟩, ⟨.sign .star, ⟨1, 24⟩⟩]
      _ _ ((back statement).drop 4) (by decide +kernel) (by decide +kernel) s s' (by decide +kernel)

/-- A line of one point is found whether a pattern of the nine-intersection model stands behind it or not. -/
theorem relate_noGeometry_before_pattern :
    let compiler : Compiler := ⟨.ecql, ⟨.plain, CrsRegistry.wellKnown.resolver⟩⟩
    let error (statement : String) : CompileError :=
      Finding.inStatement ⟨.degenerateGeometry (.tooFewPoints "LINESTRING" 2 1), ⟨"LINESTRING", ⟨1, 11⟩⟩, none⟩ statement
    let relates (pattern statement : String) : Prop := ∃ (t : GeometryText) (front : List Lexeme) (l close : Lexeme),
      scan statement = .ok (front ++ [l, close]) ∧ tokensOf front = relateTokens "RELATE" ⟨"a", none, []⟩ t ∧
        l.token = .quoted pattern ∧ close.token = .sign .rightParen
    (IsNineIntersection "T********" ∧ relates "T********" "RELATE(a, LINESTRING(1 1), 'T********')" ∧
      (compiler.compileFilter "RELATE(a, LINESTRING(1 1), 'T********')").result =
        .error (.error (error "RELATE(a, LINESTRING(1 1), 'T********')"))) ∧
    ¬IsNineIntersection "x" ∧ relates "x" "RELATE(a, LINESTRING(1 1), 'x')" ∧
      (compiler.compileFilter "RELATE(a, LINESTRING(1 1), 'x')").result =
        .error (.error (error "RELATE(a, LINESTRING(1 1), 'x')")) := by
  intro compiler error relates
  let one : SignedNumber := ⟨false, "1", false, .integer 1, rfl⟩
  let t : GeometryText := .lineString ⟨"LINESTRING", by decide +kernel⟩ ⟨⟨one, one⟩, []⟩
  have hrelates : ∀ pattern statement,
      (scan statement).toOption.map tokensOf =
          some (relateTokens "RELATE" ⟨"a", none, []⟩ t ++ [.quoted pattern, .sign .rightParen]) →
        relates pattern statement := by
    intro pattern statement h
    cases hscan : scan statement with
    | error fault =>
      rw [hscan] at h
      cases h
    | ok lexemes =>
      rw [hscan] at h
      obtain ⟨front, back, rfl, hfront, hback⟩ := List.map_eq_append_iff.mp (Option.some.inj h)
      obtain ⟨place, behind, rfl, hbehind⟩ := tokensOf_eq_cons hback
      obtain ⟨place', rest, rfl, hrest⟩ := tokensOf_eq_cons hbehind
      obtain rfl := List.map_eq_nil_iff.mp hrest
      exact ⟨t, front, ⟨.quoted pattern, place⟩, ⟨.sign .rightParen, place'⟩, hscan, hfront, rfl, rfl⟩
  exact ⟨⟨by decide +kernel, hrelates _ _ (by decide +kernel), eq_error_of_errorOf? (by decide +kernel)⟩,
    by decide +kernel, hrelates _ _ (by decide +kernel), eq_error_of_errorOf? (by decide +kernel)⟩

end GeoFilter
