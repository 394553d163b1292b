import GeoFilter.Proofs.Evaluation
import GeoFilter.Proofs.Membership.Operand

/-!
# Lists of candidates and disjunctions

IN and a list of candidates mean the disjunction of the equalities, alone, negated and as the last of several disjuncts.
-/

namespace GeoFilter

open Translation (read bind_of_ok bind_eq_ok read_of_ok repeatUpTo repeatAfter nextPredicate)

/-- Predicates with AND between them: one of the disjuncts of a filter. -/
def Translation.conjunction (u : Setting) (levels : Nat) : Translation Predicate :=
  joined u "AND" .and u.kit.factory.and (negation u levels)

def Translation.moreDisjuncts (u : Setting) (levels : Nat) : Translation (List Predicate) :=
  repeatAfter (Phrase.acceptWord "OR") (nextPredicate u .or (conjunction u levels))

/-! ### Predicates behind others -/

section Repetition

variable {sort between : Token → Bool} {next : SourceToken → Translation β} {l : Lexeme} {front back : List Lexeme}
  {bs cs : List β}

theorem ends_of_repeatUpTo_all {fuel : Nat}
    (h : repeatUpTo (Phrase.acceptIf between) next fuel front = .ok (bs, [])) : Ends between front := by
  intro l hl
  obtain ⟨rest, rfl⟩ := List.head?_eq_some_iff.mp hl
  by_contra hno
  rw [repeatUpTo_of_none (read_acceptIf_of_neg hno rest)] at h
  cases h

variable (hnext : ∀ token, Framed sort (next token) (next token))
  (hsort : ∀ token, between token = true → sort token = true)
  (hjoins : ∀ token : Token, between token = true → token.joins = false) (hl : between l.token = true)

include hsort hjoins hl

theorem exchange_behind (h : Ends between front) : Exchange sort front (front ++ l :: back) := by
  rcases front with _ | ⟨m, front⟩
  · exact .ends ends_nil (ends_cons (hsort _ hl) back)
  · exact .head (hjoins _ (h m rfl)) front (front ++ l :: back)

include hnext

/-- A repetition that goes up to the end goes on behind it, if a separator and more of the repetition stand there. -/
theorem repeatUpTo_append {fuel fuel' : Nat} (hfuel : (front ++ l :: back).length ≤ fuel')
    (hback : repeatAfter (Phrase.acceptIf between) next (l :: back) = .ok (cs, []))
    (h : repeatUpTo (Phrase.acceptIf between) next fuel front = .ok (bs, [])) :
    repeatUpTo (Phrase.acceptIf between) next fuel' (front ++ l :: back) = .ok (bs ++ cs, []) := by
  have hseparates : Separates Token.never (Phrase.acceptIf between) := by
    refine separates_acceptIf nofun fun token htoken => ?_
    by_contra hpos
    cases htoken.symm.trans (hjoins token (eq_true_of_ne_false hpos))
  have hsuffix : ∀ a input b rest, next a input = .ok (b, rest) → rest <:+ input := fun a => (hnext a).suffix
  have hend : ∀ n, (l :: back).length ≤ n → repeatUpTo (Phrase.acceptIf between) next n (l :: back) = .ok (cs, []) :=
    fun n hn => (repeatUpTo_fuel hseparates hsuffix hn (Nat.le_refl _)).trans hback
  -- what is taken of the front alone is taken in front of the separator, too, one item after the other
  induction fuel generalizing front bs fuel' with
  | zero =>
    cases h
    exact hend fuel' hfuel
  | succ fuel ih =>
    rcases front with _ | ⟨m, front⟩
    · cases h
      exact hend fuel' hfuel
    · have hm : between m.token = true := ends_of_repeatUpTo_all h m rfl
      rw [List.cons_append, List.length_cons] at hfuel
      obtain ⟨fuel', rfl⟩ := Nat.exists_eq_add_of_le' (Nat.one_le_of_lt hfuel)
      rw [repeatUpTo, bind_of_ok (read_acceptIf_of_pos hm front)] at h
      obtain ⟨b, mid, hb, h⟩ := bind_eq_ok h
      obtain ⟨bs', mid', hbs, h⟩ := bind_eq_ok h
      cases h
      obtain ⟨taken, rfl⟩ := hsuffix _ _ _ _ hb
      have hexchange : Exchange sort mid (mid ++ l :: back) :=
        exchange_behind hsort hjoins hl (ends_of_repeatUpTo_all hbs)
      have hb' := (hnext _).frame taken mid (mid ++ l :: back) b hexchange hb
      rw [List.append_assoc, List.length_append] at hfuel
      have hmore : repeatUpTo (Phrase.acceptIf between) next fuel' (mid ++ l :: back) = .ok (bs' ++ cs, []) :=
        ih (by omega) hbs
      rw [List.cons_append, List.append_assoc, repeatUpTo, bind_of_ok (read_acceptIf_of_pos hm _)]
      refine (bind_of_ok hb').trans ?_
      rw [bind_of_ok hmore]
      rfl

end Repetition

variable {u : Setting} {levels : Nat} {p : Predicate} {qs : List Predicate} {front back : List Lexeme} {l : Lexeme}

theorem filter_append (hfront : Translation.filter u levels front = .ok (p, [])) (hl : l.token.isWord "OR" = true)
    (hback : Translation.moreDisjuncts u levels (l :: back) = .ok (qs, [])) :
    Translation.filter u levels (front ++ l :: back) = .ok (qs.foldl u.kit.factory.or p, []) := by
  have hnegation : Solid (Token.isWord "OR") (Translation.negation u levels) (Translation.negation u levels) :=
    (solid_negation (Nat.le_refl levels)).mono fun _ => Token.endsOperand_of_or
  have hitem : Solid (Token.isWord "OR") (Translation.conjunction u levels) (Translation.conjunction u levels) :=
    solid_joined Token.not_and_of_or .and u.kit.factory.and hnegation
  have hnext : ∀ token, Framed (Token.isWord "OR") (nextPredicate u .or (Translation.conjunction u levels) token)
      (nextPredicate u .or (Translation.conjunction u levels) token) :=
    fun token => hitem.toFramed.bind fun _ => .complete u _ _ _
  have hjoins : ∀ token : Token, token.isWord "OR" = true → token.joins = false :=
    fun token htoken => joins_of_endsOperand token (Token.endsOperand_of_or htoken)
  obtain ⟨q, mid, hq, h⟩ := bind_eq_ok hfront
  obtain ⟨ps, mid', hps, h⟩ := bind_eq_ok h
  cases h
  obtain ⟨taken, rfl⟩ := hitem.suffix _ _ _ hq
  have hexchange : Exchange (Token.isWord "OR") mid (mid ++ l :: back) :=
    exchange_behind (fun _ htoken => htoken) hjoins hl (ends_of_repeatUpTo_all hps)
  have hq' := hitem.frame taken mid (mid ++ l :: back) q hexchange hq
  have hmore := repeatUpTo_append hnext (fun _ htoken => htoken) hjoins hl (Nat.le_refl _) hback hps
  rw [List.append_assoc]
  refine (bind_of_ok hq').trans ((bind_of_ok hmore).trans ?_)
  rw [List.foldl_append]
  rfl

/-! ### Lists of candidates as disjuncts -/

theorem ClosesDisjunct.without_and {r : List Token} (h : ClosesDisjunct r) : Without (Token.isWord "AND") r :=
  fun token htoken => token.not_and_of_or (h token htoken)

theorem closesDisjunct_nil {r : List Token} (h : r = []) : ClosesDisjunct r := by
  subst h
  exact nofun

theorem without_nil (sort : Token → Bool) {r : List Token} (h : r = []) : Without sort r := by
  subst h
  exact nofun

namespace Yields

variable {ts : List Token}

theorem conjunction (h : Yields (Translation.negation u levels) ts ClosesOperand (some p)) :
    Yields (Translation.conjunction u levels) ts ClosesDisjunct (some p) :=
  joined_single (h.mono fun _ hr => hr.closesOperand) fun _ hr => hr.without_and

theorem disjuncts (hpermits : ∀ red, u.permits red = true) {head : δ → Token} {tokens : δ → List Token}
    {value : δ → Predicate} {xs : List δ} (hhead : ∀ x ∈ xs, (head x).isWord "OR" = true)
    (hitem : ∀ x ∈ xs, Yields (Translation.negation u levels) (tokens x) ClosesOperand (some (value x)))
    (htokens : tokensOf back = xs.flatMap fun x => head x :: tokens x) :
    Translation.moreDisjuncts u levels back = .ok (xs.map value, []) := by
  have hyields : Yields (Translation.moreDisjuncts u levels) (xs.flatMap fun x => head x :: tokens x) (· = [])
      (some (xs.map value)) :=
    nextPredicates hpermits hhead (fun x hx => (hitem x hx).conjunction)
      (fun x hx _ _ htoken => by cases htoken; exact hhead x hx) (fun _ => closesDisjunct_nil) fun _ => without_nil _
  obtain ⟨rest, hread, hrest⟩ := hyields back [] (by rw [htokens, List.append_nil]) rfl
  obtain rfl := List.map_eq_nil_iff.mp hrest
  exact hread

theorem disjunct (hpermits : ∀ red, u.permits red = true) (hl : l.token.isWord "OR" = true)
    (h : Yields (Translation.negation u levels) ts ClosesOperand (some p)) (htokens : tokensOf back = ts) :
    Translation.moreDisjuncts u levels (l :: back) = .ok ([p], []) := by
  have hall : tokensOf (l :: back) = [l].flatMap fun l => l.token :: ts := by
    rw [List.flatMap_singleton]
    exact congrArg (l.token :: ·) htokens
  have hword : ∀ l' ∈ [l], l'.token.isWord "OR" = true := List.forall_mem_singleton.mpr hl
  exact disjuncts hpermits hword (fun _ _ => h) hall

theorem filter_of_conjunction (h : Yields (Translation.conjunction u levels) ts ClosesDisjunct (some p)) :
    Yields (Translation.filter u levels) ts (· = []) (some p) :=
  joined_single (h.mono fun _ hr => closesDisjunct_nil hr) fun _ hr => without_nil _ hr

end Yields

section Candidates

variable {compiler : Compiler} (hplain : compiler.toolkit.factory = .plain) {name : AttributeName}
  {words : CandidateWords} {candidates : Row compiler.WrittenExpression}

namespace AttributeName

variable (hstands : name.Stands compiler.dialect)

include hplain

theorem combined_equality :
    candidates.combined compiler.setting.kit.factory.or name.equality = name.disjunction candidates := by
  have hfactory : compiler.setting.kit.factory = .plain := hplain
  rw [hfactory]
  have hnone : ∀ p ∈ candidates.toList.map name.equality, p.disjuncts = [p] := List.forall_mem_map.mpr fun _ _ => rfl
  exact Predicate.foldl_flatOr_cons hnone

theorem foldl_equality (q : Predicate) :
    (candidates.toList.map name.equality).foldl compiler.setting.kit.factory.or q =
      TreeFactory.plain.or q (name.disjunction candidates) := by
  have hfactory : compiler.setting.kit.factory = .plain := hplain
  rw [hfactory]
  exact Predicate.foldl_flatOr q (List.cons_ne_nil _ _) (List.forall_mem_map.mpr fun _ _ => rfl)

include hstands

theorem yields_equalsAny :
    Yields (Translation.filter compiler.setting maxNesting) (name.equalsAny words candidates) (· = [])
      (some (name.disjunction candidates)) := by
  rw [← combined_equality hplain]
  exact Yields.joined (fun _ => rfl) words.isOr (fun c _ => (yields_equals hplain hstands c).conjunction)
    (fun _ _ htoken => by cases htoken; exact words.isOr) (fun _ => closesDisjunct_nil) fun _ => without_nil _

variable {front back : List Lexeme} {l : Lexeme} (hl : l.token.isWord "OR" = true)

include hl

theorem disjuncts_equalsAny (htokens : tokensOf back = name.equalsAny words candidates) :
    Translation.moreDisjuncts compiler.setting maxNesting (l :: back) = .ok (candidates.toList.map name.equality, []) := by
  let xs := (l.token, candidates.first) :: candidates.others.map (Token.word words.or none, ·)
  have hall : tokensOf (l :: back) = xs.flatMap fun x => x.1 :: name.equals x.2 := by
    rw [List.flatMap_cons, List.flatMap_map]
    exact congrArg (l.token :: ·) htokens
  have hvalues : (xs.map fun x => name.equality x.2) = candidates.toList.map name.equality := by
    rw [List.map_cons, List.map_map]
    rfl
  rw [← hvalues]
  have hwords : ∀ x ∈ xs, x.1.isWord "OR" = true :=
    List.forall_mem_cons.mpr ⟨hl, List.forall_mem_map.mpr fun _ _ => words.isOr⟩
  exact Yields.disjuncts (fun _ => rfl) hwords (fun x _ => yields_equals hplain hstands x.2) hall

theorem disjunct_isIn (htokens : tokensOf back = name.isIn words candidates) :
    Translation.moreDisjuncts compiler.setting maxNesting (l :: back) = .ok ([name.disjunction candidates], []) :=
  Yields.disjunct (fun _ => rfl) hl (yields_isIn hplain hstands) htokens

end AttributeName

end Candidates

/-- **Candidates in a list are candidates in a disjunction.**  In each dialect, for every attribute and all candidates:
if the equalities of the attribute with the candidates, connected by OR, compile to a predicate, then so do IN and the
list of the candidates, while NOT IN and the list compile to its negation.  Behind any filter and OR, the equalities and
IN with the list again compile to the same: the disjunction of the filter and that predicate. -/
theorem membership_is_disjunction {compiler : Compiler} (hplain : compiler.toolkit.factory = .plain)
    {name : AttributeName} {words : CandidateWords} {candidates : Row compiler.WrittenExpression} {statement : String}
    {L : List Lexeme} (hscan : scan statement = .ok L) (htokens : tokensOf L = name.equalsAny words candidates)
    {p : Predicate} (hp : (compiler.compileFilter statement).result = .ok p) :
    (∀ words' s L', scan s = .ok L' → tokensOf L' = name.isIn words' candidates →
      (compiler.compileFilter s).result = .ok p) ∧
    (∀ words' s L', scan s = .ok L' → tokensOf L' = name.isNotIn words' candidates →
      (compiler.compileFilter s).result = .ok (.not p)) ∧
    ∀ front q l back words' s, compiler.MakesFilter maxNesting front q → l.token.isWord "OR" = true →
      scan s = .ok (front ++ l :: back) →
      (tokensOf back = name.equalsAny words' candidates ∨ tokensOf back = name.isIn words' candidates) →
      (compiler.compileFilter s).result = .ok (TreeFactory.plain.or q p) := by
  have hread : Translation.filter compiler.setting maxNesting L = .ok (p, []) :=
    makesFilter_iff.mp ((compileFilter_eq_ok_iff hscan).mp hp)
  have hothers : ClosesDisjunct (candidates.others.flatMap fun c => .word words.or none :: name.equals c) := by
    cases candidates.others with
    | nil => exact closesDisjunct_nil rfl
    | cons c cs => exact fun _ htoken => by cases htoken; exact words.isOr
  have hstands : name.Stands compiler.dialect := AttributeName.stands_of_filter hplain hothers htokens hread
  obtain rfl : name.disjunction candidates = p := by
    obtain ⟨_, hsame, _⟩ := AttributeName.yields_equalsAny hplain hstands L [] (by rw [htokens, List.append_nil]) rfl
    cases hsame.symm.trans hread
    rfl
  refine ⟨fun words' s L' hs hL' => ?_, fun words' s L' hs hL' => ?_, fun front q l back words' s hq hl hs hback => ?_⟩
  · exact (AttributeName.yields_isIn hplain hstands).conjunction.filter_of_conjunction.compileFilter rfl hs hL'
  · exact (AttributeName.yields_isNotIn hplain hstands).conjunction.filter_of_conjunction.compileFilter rfl hs hL'
  · rw [compileFilter_eq_ok_iff hs, makesFilter_iff]
    have hfront := makesFilter_iff.mp hq
    rcases hback with hback | hback
    · have hequalities := AttributeName.disjuncts_equalsAny hplain hstands hl hback
      rw [filter_append hfront hl hequalities, AttributeName.foldl_equality hplain q]
    · have hfactory : compiler.setting.kit.factory = .plain := hplain
      have hlist := AttributeName.disjunct_isIn hplain hstands hl hback
      rw [filter_append hfront hl hlist, List.foldl_cons, List.foldl_nil, hfactory]

/-- A text and a sum as candidates, alone and behind another test. -/
theorem membership_is_disjunction_ecql :
    let compiler : Compiler := ⟨.ecql, ⟨.plain, CrsRegistry.wellKnown.resolver⟩⟩
    ∃ p q, (compiler.compileFilter "a.b = 'x' OR a.b = 1 + 2").result = .ok p ∧
      (compiler.compileFilter "a.b IN ('x', 1 + 2)").result = .ok p ∧
      (compiler.compileFilter "a.b not in ('x', 1 + 2)").result = .ok (.not p) ∧
      (compiler.compileFilter "c = 3 OR INCLUDE").result = .ok q ∧
      (compiler.compileFilter "c = 3 OR INCLUDE OR a.b = 'x' OR a.b = 1 + 2").result = .ok (TreeFactory.plain.or q p) ∧
      (compiler.compileFilter "c = 3 OR INCLUDE OR a.b IN ('x', 1 + 2)").result = .ok (TreeFactory.plain.or q p) := by
  intro compiler
  let lexemes (statement : String) : List Lexeme := (scan statement).toOption.getD []
  let name : AttributeName := ⟨"a", none, [.point "b" none]⟩
  let upper : CandidateWords := ⟨"OR", "IN", "NOT", by decide +kernel, by decide +kernel, by decide +kernel⟩
  let lower : CandidateWords := ⟨"or", "in", "not", by decide +kernel, by decide +kernel, by decide +kernel⟩
  obtain ⟨x, hx⟩ : ∃ x, (compiler.compileExpression "'x'").result = .ok x := exists_ok_of_isSome (by decide +kernel)
  obtain ⟨y, hy⟩ : ∃ y, (compiler.compileExpression "1 + 2").result = .ok y := exists_ok_of_isSome (by decide +kernel)
  let candidates : Row compiler.WrittenExpression :=
    ⟨⟨"'x'", lexemes "'x'", x, by decide +kernel, hx⟩, [⟨"1 + 2", lexemes "1 + 2", y, by decide +kernel, hy⟩]⟩
  obtain ⟨p, hp⟩ : ∃ p, (compiler.compileFilter "a.b = 'x' OR a.b = 1 + 2").result = .ok p :=
    exists_ok_of_isSome (by decide +kernel)
  obtain ⟨q, hq⟩ : ∃ q, (compiler.compileFilter "c = 3 OR INCLUDE").result = .ok q :=
    exists_ok_of_isSome (by decide +kernel)
  have hfront : compiler.MakesFilter maxNesting (lexemes "c = 3 OR INCLUDE") q :=
    (compileFilter_eq_ok_iff (by decide +kernel)).mp hq
  obtain ⟨hin, hnot, hor⟩ := @membership_is_disjunction compiler rfl name upper candidates _
    (lexemes "a.b = 'x' OR a.b = 1 + 2") (by decide +kernel) rfl _ hp
  let or : Lexeme := ⟨.word "OR" none, ⟨1, 18⟩⟩
  refine ⟨p, q, hp, hin upper _ (lexemes "a.b IN ('x', 1 + 2)") (by decide +kernel) rfl,
    hnot lower _ (lexemes "a.b not in ('x', 1 + 2)") (by decide +kernel) rfl, hq, ?_, ?_⟩
  · exact hor _ q or (lexemes "                    a.b = 'x' OR a.b = 1 + 2") upper _ hfront (by decide +kernel)
      (by decide +kernel) (.inl rfl)
  · exact hor _ q or (lexemes "                    a.b IN ('x', 1 + 2)") upper _ hfront (by decide +kernel)
      (by decide +kernel) (.inr rfl)

end GeoFilter
