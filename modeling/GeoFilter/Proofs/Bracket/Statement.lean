import GeoFilter.Proofs.Bracket
import GeoFilter.Proofs.Nesting.Statement

/-!
# Groups in parentheses and in brackets

A group is the filter in it.  Parentheses in the places of all brackets leave a filter what it is (`Rounds`), although
parentheses also stand around arguments and operands: brackets stand around groups alone, and the word in front of a
group is NOT, AND or OR.  And a filter in parentheses, or in brackets where there are groups in brackets, is the filter
itself, one level deeper.
-/

namespace GeoFilter

open Translation (read bind_of_ok bind_eq_ok read_of_ok read_eq_ok repeatAfter nextPredicate)

/-! ### Parentheses for brackets -/

def Sign.rounded : Sign → Sign
  | .leftBracket => .leftParen
  | .rightBracket => .rightParen
  | s => s

/-- A parenthesis in the place of a bracket; other tokens stay. -/
def Token.rounded : Token → Token
  | .sign s => .sign s.rounded
  | token => token

/-- A lexeme with a parenthesis in the place of a bracket. -/
def Lexeme.rounded (l : Lexeme) : Lexeme := ⟨l.token.rounded, l.place⟩

theorem Token.rounded_of_isBracket {token : Token} (h : token.isBracket = false) : token.rounded = token := by
  cases token with
  | sign s => cases s <;> first | rfl | cases h
  | _ => rfl

theorem Reserve.Absent.map_rounded {ls : List Lexeme} (h : Reserve.brackets.Absent ls) :
    ls.map Lexeme.rounded = ls := by
  have hsame : ∀ l ∈ ls, l.rounded = l := fun l hl => by rw [Lexeme.rounded, Token.rounded_of_isBracket (h l hl)]
  rw [List.map_congr_left hsame, List.map_id']

theorem Token.isWord_rounded (word : String) (token : Token) : token.rounded.isWord word = token.isWord word := by
  cases token <;> rfl

theorem Token.endsOperand_rounded (token : Token) (h : token.endsOperand = true) :
    token.rounded.endsOperand = true := by
  cases token with
  | sign s => cases s <;> first | rfl | cases h
  | _ => exact h

theorem Lexeme.closing_rounded {dialect : Dialect} {l : Lexeme} {closing : Sign}
    (h : l.closing? dialect = some closing) : l.rounded.closing? dialect = some closing.rounded := by
  obtain ⟨token, place⟩ := l
  cases token with
  | sign s => cases dialect <;> cases s <;> cases h <;> rfl
  | _ => cases dialect <;> cases h

def Roundable (sort : Token → Bool) : Prop := ∀ token, sort token = true → sort token.rounded = true

theorem Roundable.ends {sort : Token → Bool} (hsort : Roundable sort) {rest : List Lexeme} (h : Ends sort rest) :
    Ends sort (rest.map Lexeme.rounded) := by
  rcases rest with _ | ⟨l, rest⟩
  · exact ends_nil
  · exact ends_cons (hsort _ (h l rfl)) _

/-- A translation that makes the same value with parentheses for brackets, where it stops before tokens of a sort. -/
def Rounds (sort : Token → Bool) (c : Translation α) : Prop :=
  ∀ input a rest, Ends sort rest → c input = .ok (a, rest) →
    c (input.map Lexeme.rounded) = .ok (a, rest.map Lexeme.rounded)

variable {u : Setting} {levels : Nat}

/-! ### AND and OR -/

theorem Rounds.nextPredicate {sort : Token → Bool} {item : Translation Predicate} (hitem : Rounds sort item)
    (production : Production) (token : SourceToken) : Rounds sort (nextPredicate u production item token) := by
  intro input p rest hrest h
  obtain ⟨q, mid, hq, h⟩ := bind_eq_ok h
  obtain ⟨hpermits, hvalue, rfl⟩ := Translation.complete_eq_ok h
  cases hvalue
  exact (bind_of_ok (hitem _ _ _ hrest hq)).trans (Translation.complete_of_permits hpermits _ _)

section Words

variable {sort sort' : Token → Bool} {word : String} (hbefore : ∀ token, sort' token = true → sort token = true)
  (hword : ∀ token : Token, token.isWord word = true → sort token = true)

include hbefore hword

theorem ends_of_repeatUpTo {item : SourceToken → Translation β} {fuel : Nat} {input rest : List Lexeme} {bs : List β}
    (hrest : Ends sort' rest) (h : Translation.repeatUpTo (Phrase.acceptWord word) item fuel input = .ok (bs, rest)) :
    Ends sort input := by
  intro l hl
  obtain ⟨more, rfl⟩ := List.head?_eq_some_iff.mp hl
  by_cases hpos : l.token.isWord word = true
  · exact hword _ hpos
  · have hkeep : read (Phrase.acceptWord word) (l :: more) = .ok (none, l :: more) := read_acceptIf_of_neg hpos more
    rw [repeatUpTo_of_none hkeep] at h
    cases h
    exact hbefore _ (hrest l rfl)

theorem rounds_repeatUpTo {item : SourceToken → Translation β} (hitem : ∀ token, Rounds sort (item token)) (fuel : Nat)
    {input rest : List Lexeme} {bs : List β} (hrest : Ends sort' rest)
    (h : Translation.repeatUpTo (Phrase.acceptWord word) item fuel input = .ok (bs, rest)) :
    Translation.repeatUpTo (Phrase.acceptWord word) item fuel (input.map Lexeme.rounded) =
      .ok (bs, rest.map Lexeme.rounded) := by
  induction fuel generalizing input bs with
  | zero =>
    cases h
    rfl
  | succ fuel ih =>
    rcases input with _ | ⟨l, input⟩
    · cases h
      rfl
    · by_cases hpos : l.token.isWord word = true
      · have hpos' : l.rounded.token.isWord word = true := (Token.isWord_rounded word l.token).trans hpos
        have hsource : l.rounded = l := by
          rw [Lexeme.rounded, Token.rounded_of_isBracket (Reserve.brackets.free (Token.isReservable_of_isWord hpos))]
        obtain ⟨token?, mid, htoken, h⟩ := bind_eq_ok h
        cases (read_acceptIf_of_pos hpos input).symm.trans htoken
        obtain ⟨b, mid', hb, h⟩ := bind_eq_ok h
        obtain ⟨bs, mid'', hbs, h⟩ := bind_eq_ok h
        cases h
        have hb' := hitem _ _ _ _ (ends_of_repeatUpTo hbefore hword hrest hbs) hb
        rw [List.map_cons, hsource]
        refine (bind_of_ok (read_acceptIf_of_pos hpos _)).trans ?_
        exact (bind_of_ok hb').trans (bind_of_ok (ih hbs))
      · have hkeep : read (Phrase.acceptWord word) (l :: input) = .ok (none, l :: input) :=
          read_acceptIf_of_neg hpos input
        have hneg : ¬l.rounded.token.isWord word = true :=
          fun h => hpos ((Token.isWord_rounded word l.token).symm.trans h)
        rw [repeatUpTo_of_none hkeep] at h
        cases h
        exact repeatUpTo_of_none (read_acceptIf_of_neg hneg _) (fuel + 1)

theorem Rounds.joined {production : Production} {combine : Predicate → Predicate → Predicate}
    {item : Translation Predicate} (hitem : Rounds sort item) :
    Rounds sort' (Translation.joined u word production combine item) := by
  intro input p rest hrest h
  obtain ⟨first, mid, hfirst, h⟩ := bind_eq_ok h
  obtain ⟨more, mid', hmore, h⟩ := bind_eq_ok h
  cases h
  have hmore' := rounds_repeatUpTo hbefore hword (hitem.nextPredicate production) _ hrest hmore
  rw [← List.length_map (f := Lexeme.rounded)] at hmore'
  refine (bind_of_ok (hitem _ _ _ (ends_of_repeatUpTo hbefore hword hrest hmore) hfirst)).trans ?_
  exact bind_of_ok hmore'

end Words

/-- A disjunction of conjunctions ends where a filter does, and its conjunctions may go on with OR. -/
theorem Rounds.disjunctionOf {negation : Translation Predicate} (h : Rounds Token.endsOperand negation) :
    Rounds Token.endsFilter (Translation.disjunctionOf u negation) :=
  have hword : ∀ word ∈ ["AND", "OR"], ∀ token : Token, token.isWord word = true → token.endsOperand = true :=
    fun _ hmem _ => Token.endsOperand_of_isWord hmem
  Rounds.joined Token.endsOperand_of_endsFilter (hword "OR" (by decide))
    (Rounds.joined (fun _ => id) (hword "AND" (by decide)) h)

/-! ### Predicates -/

theorem negation_single {l : Lexeme} (hnot : l.isNot = false) (hclosing : l.closing? u.dialect = none)
    (input : List Lexeme) :
    Translation.negation u levels (l :: input) = (read Grammar.parenFollows >>= fun called =>
      Translation.simplePredicate u levels l.token.keyword? called) (l :: input) := by
  have hword : ¬l.token.isWord "NOT" = true := ne_true_of_eq_false hnot
  have hsign : Grammar.closingSign? u.dialect l.token = none := hclosing
  rw [Translation.negation_eq]
  refine (bind_of_ok (read_acceptIf_of_neg hword input)).trans ?_
  show (Translation.primary u levels _) (l :: input) = _
  refine (bind_of_ok (a := some l.token) rfl).trans ?_
  dsimp only
  rw [hsign]

theorem negation_takes {p : Predicate} {rest : List Lexeme} : Translation.negation u levels [] ≠ .ok (p, rest) := by
  have hsolid : Solid Token.endsOperand (Translation.negation u levels) (Translation.negation u levels) :=
    solid_negation (Nat.le_refl levels)
  intro h
  obtain rfl := List.suffix_nil.mp (hsolid.suffix _ _ _ h)
  exact hsolid.takes _ _ h

theorem rounds_single {l : Lexeme} (hnot : l.isNot = false) (hclosing : l.closing? u.dialect = none)
    {input rest : List Lexeme} {p : Predicate} (hrest : Ends Token.endsOperand rest)
    (h : Translation.negation u levels (l :: input) = .ok (p, rest)) :
    Translation.negation u levels ((l :: input).map Lexeme.rounded) = .ok (p, rest.map Lexeme.rounded) := by
  have hsingle := h
  rw [negation_single hnot hclosing] at hsingle
  obtain ⟨taken, htaken, hunbracketed⟩ :=
    Spares.parenFollows_bind (fun called => sparesAt_simplePredicate levels l called) _ _ _ hsingle
  rw [htaken] at h ⊢
  rw [List.map_append, hunbracketed.map_rounded]
  exact (solid_negation (Nat.le_refl levels)).frame taken rest _ p
    (.ends hrest (Roundable.ends Token.endsOperand_rounded hrest)) h

section Openers

variable {l : Lexeme} {input rest : List Lexeme} {p : Predicate}

theorem rounds_not (hnegation : Rounds Token.endsOperand (Translation.negation u levels)) (hl : l.isNot = true)
    (hrest : Ends Token.endsOperand rest) (h : Translation.negation u (levels + 1) (l :: input) = .ok (p, rest)) :
    Translation.negation u (levels + 1) ((l :: input).map Lexeme.rounded) = .ok (p, rest.map Lexeme.rounded) := by
  have hl' : l.rounded.isNot = true := (Token.isWord_rounded "NOT" l.token).trans hl
  have hsame : l.rounded = l := by
    rw [Lexeme.rounded, Token.rounded_of_isBracket (Reserve.brackets.free (Token.isReservable_of_isWord hl))]
  rw [negation_not hl] at h
  obtain ⟨q, mid, hq, h⟩ := bind_eq_ok h
  obtain ⟨hpermits, hvalue, rfl⟩ := Translation.complete_eq_ok h
  cases hvalue
  rw [List.map_cons, negation_not hl', hsame]
  exact (bind_of_ok (hnegation _ _ _ hrest hq)).trans (Translation.complete_of_permits hpermits _ _)

/-- The group is in parentheses then, and the filter in it ends before the parenthesis. -/
theorem rounds_group (hnegation : Rounds Token.endsOperand (Translation.negation u levels)) {closing : Sign}
    (hl : l.closing? u.dialect = some closing)
    (h : Translation.negation u (levels + 1) (l :: input) = .ok (p, rest)) :
    Translation.negation u (levels + 1) ((l :: input).map Lexeme.rounded) = .ok (p, rest.map Lexeme.rounded) := by
  rw [negation_group hl] at h
  obtain ⟨q, mid, hq, h⟩ := bind_eq_ok h
  obtain ⟨_, mid', hrequire, h⟩ := bind_eq_ok h
  cases h
  obtain ⟨place, rfl⟩ := Phrase.require_eq_ok (read_eq_ok hrequire)
  have hends : Ends Token.endsFilter (⟨.sign closing, place⟩ :: rest) := ends_cons (Lexeme.endsFilter_of_closes hl) rest
  exact negation_succ_group (Lexeme.closing_rounded hl) rfl (hnegation.disjunctionOf _ _ _ hends hq)

end Openers

theorem rounds_negation (levels : Nat) : Rounds Token.endsOperand (Translation.negation u levels) := by
  induction levels with
  | zero =>
    rintro (_ | ⟨l, input⟩) p rest hrest h
    · exact absurd h negation_takes
    · cases hopens : l.opens u.dialect with
      | true => cases (negation_zero hopens).symm.trans h
      | false =>
        obtain ⟨hnot, hclosing⟩ := Bool.or_eq_false_iff.mp hopens
        exact rounds_single hnot (Option.not_isSome_iff_eq_none.mp (ne_true_of_eq_false hclosing)) hrest h
  | succ levels ih =>
    rintro (_ | ⟨l, input⟩) p rest hrest h
    · exact absurd h negation_takes
    · cases hnot : l.isNot with
      | true => exact rounds_not ih hnot hrest h
      | false =>
        cases hclosing : l.closing? u.dialect with
        | none => exact rounds_single hnot hclosing hrest h
        | some closing => exact rounds_group ih hclosing h

theorem rounds_filter (levels : Nat) : Rounds Token.endsFilter (Translation.filter u levels) :=
  (rounds_negation levels).disjunctionOf

/-! ### Filters in groups -/

theorem filter_group {l c : Lexeme} {closing : Sign} (hl : l.closing? u.dialect = some closing)
    (hc : c.token = .sign closing) {lexemes : List Lexeme} {p : Predicate}
    (h : Translation.filter u levels lexemes = .ok (p, [])) :
    Translation.filter u (levels + 1) (l :: (lexemes ++ [c])) = .ok (p, []) := by
  rw [← List.append_nil lexemes] at h
  have hends : Ends Token.endsFilter [c] := ends_cons (hc ▸ Lexeme.endsFilter_of_closes hl) []
  have hinside := (solid_filter (Nat.le_refl levels)).frame lexemes [] [c] p (.ends ends_nil hends) h
  exact filter_of_negation ends_nil (negation_succ_group hl hc hinside)

variable {compiler : Compiler} {lexemes : List Lexeme} {p : Predicate}

theorem Compiler.MakesFilter.mono {levels' : Nat} (h : compiler.MakesFilter levels lexemes p) (hle : levels ≤ levels') :
    compiler.MakesFilter levels' lexemes p := by
  rw [makesFilter_iff, ← List.append_nil lexemes] at h ⊢
  exact (solid_filter hle).frame lexemes [] [] p (.refl []) h

theorem compileFilter_eq_ok_iff_exists {statement : String} (hscan : scan statement = .ok lexemes) :
    (compiler.compileFilter statement).result = .ok p ↔
      ∃ levels ≤ maxNesting, compiler.MakesFilter levels lexemes p := by
  rw [compileFilter_eq_ok_iff hscan]
  exact ⟨fun h => ⟨maxNesting, Nat.le_refl _, h⟩, fun ⟨_, hle, h⟩ => h.mono hle⟩

/-- The signs around a group: parentheses, and brackets in the extended dialect. -/
inductive GroupSigns : Dialect → Sign → Sign → Prop
  | parentheses (dialect : Dialect) : GroupSigns dialect .leftParen .rightParen
  | brackets : GroupSigns .ecql .leftBracket .rightBracket

/-- **Grouping is transparent.**  A filter with parentheses for its brackets is the same filter with as many levels of
nesting, and so is a filter in parentheses, or in the brackets of the extended dialect, with one level more.  A
statement compiles if the levels of its filter are within the limit. -/
theorem grouping_transparent (toolkit : Toolkit) :
    (∀ dialect levels lexemes p, (⟨dialect, toolkit⟩ : Compiler).MakesFilter levels lexemes p →
      (⟨dialect, toolkit⟩ : Compiler).MakesFilter levels (lexemes.map Lexeme.rounded) p) ∧
    (∀ dialect levels lexemes p, (⟨dialect, toolkit⟩ : Compiler).MakesFilter levels lexemes p →
      ∀ opener closer place place', GroupSigns dialect opener closer →
        (⟨dialect, toolkit⟩ : Compiler).MakesFilter (levels + 1)
          (⟨.sign opener, place⟩ :: (lexemes ++ [⟨.sign closer, place'⟩])) p) ∧
    ∀ dialect statement lexemes p, scan statement = .ok lexemes →
      (((⟨dialect, toolkit⟩ : Compiler).compileFilter statement).result = .ok p ↔
        ∃ levels ≤ maxNesting, (⟨dialect, toolkit⟩ : Compiler).MakesFilter levels lexemes p) := by
  refine ⟨fun dialect levels lexemes p h => ?_, fun dialect levels lexemes p h opener closer place place' hsigns => ?_,
    fun dialect statement lexemes p hscan => compileFilter_eq_ok_iff_exists hscan⟩
  · rw [makesFilter_iff] at h ⊢
    exact rounds_filter levels lexemes p [] ends_nil h
  · rw [makesFilter_iff] at h ⊢
    have hl : Lexeme.closing? dialect ⟨.sign opener, place⟩ = some closer := by
      cases hsigns with
      | parentheses => cases dialect <;> rfl
      | brackets => rfl
    exact filter_group hl rfl h

/-- A group in brackets behind NOT and in brackets again, and a list in parentheses. -/
theorem grouping_transparent_list :
    let compiler : Compiler := ⟨.ecql, ⟨.plain, CrsRegistry.wellKnown.resolver⟩⟩
    ∃ p, (compiler.compileFilter " NOT [a IN (1, 2)] ").result = .ok p ∧
      (compiler.compileFilter " NOT (a IN (1, 2)) ").result = .ok p ∧
      (compiler.compileFilter "[NOT [a IN (1, 2)]]").result = .ok p := by
  intro compiler
  obtain ⟨hrounded, hgroup, hcompiles⟩ := grouping_transparent ⟨.plain, CrsRegistry.wellKnown.resolver⟩
  let lexemes (opener closer : Sign) : List Lexeme :=
    [⟨.word "NOT" none, ⟨1, 2⟩⟩, ⟨.sign opener, ⟨1, 6⟩⟩, ⟨.word "a" none, ⟨1, 7⟩⟩, ⟨.word "IN" none, ⟨1, 9⟩⟩,
      ⟨.sign .leftParen, ⟨1, 12⟩⟩, ⟨.number "1" false, ⟨1, 13⟩⟩, ⟨.sign .comma, ⟨1, 14⟩⟩, ⟨.number "2" false, ⟨1, 16⟩⟩,
      ⟨.sign .rightParen, ⟨1, 17⟩⟩, ⟨.sign closer, ⟨1, 18⟩⟩]
  have hscan : scan " NOT [a IN (1, 2)] " = .ok (lexemes .leftBracket .rightBracket) := by decide +kernel
  have hscan' : scan " NOT (a IN (1, 2)) " = .ok ((lexemes .leftBracket .rightBracket).map Lexeme.rounded) := by
    decide +kernel
  have hscan'' : scan "[NOT [a IN (1, 2)]]" = .ok (⟨.sign .leftBracket, ⟨1, 1⟩⟩ ::
      (lexemes .leftBracket .rightBracket ++ [⟨.sign .rightBracket, ⟨1, 19⟩⟩])) := by decide +kernel
  obtain ⟨p, hp⟩ : ∃ p, compiler.MakesFilter 2 (lexemes .leftBracket .rightBracket) p :=
    exists_makesFilter_iff.mpr (accepts_of_snd (by decide +kernel))
  exact ⟨p, (hcompiles _ _ _ p hscan).mpr ⟨2, by decide, hp⟩,
    (hcompiles _ _ _ p hscan').mpr ⟨2, by decide, hrounded _ _ _ p hp⟩,
    (hcompiles _ _ _ p hscan'').mpr ⟨3, by decide, hgroup _ _ _ p hp _ _ _ _ .brackets⟩⟩

end GeoFilter
