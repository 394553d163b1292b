import GeoFilter.Proofs.Dialects.Operand
import GeoFilter.Proofs.Framing
import GeoFilter.Proofs.Parallel.Statement
import GeoFilter.Proofs.Yield.Predicate

/-!
# What statements come to, lexeme by lexeme

A translation that takes known tokens leaves the very lexemes behind them, and what is known to stop in its first part
stops as a whole.  So a predicate that starts with a keyword is all there is to a filter, whether it makes a value or
finds that there is none, and an operand is all there is to an expression.
-/

namespace GeoFilter

open Translation (read bind_of_ok bind_of_error read_of_ok)

variable {u : Setting} {levels : Nat} {lexemes : List Lexeme}

theorem Yields.reads {c : Translation α} {ts : List Token} {F : List Token → Prop} {v : α} (h : Yields c ts F (some v))
    (hsuffix : ∀ input a rest, c input = .ok (a, rest) → rest <:+ input) {front back : List Lexeme}
    (hfront : tokensOf front = ts) (hback : F (tokensOf back)) : c (front ++ back) = .ok (v, back) := by
  obtain ⟨rest, hread, hrest⟩ := h (front ++ back) (tokensOf back) (by rw [← hfront, tokensOf, List.map_append]; rfl) hback
  have hlength : rest.length = back.length := by
    have htotal := congrArg List.length hrest
    rwa [tokensOf, tokensOf, List.length_map, List.length_map] at htotal
  have hsame : rest <:+ back :=
    List.suffix_of_suffix_length_le (hsuffix _ _ _ hread) (List.suffix_append front back) hlength.le
  rw [hread, hsame.eq_of_length hlength]

namespace Translation

/-! ### Predicates that start with a keyword -/

theorem negation_eq_simplePredicate {word : String} {keyword : Keyword} (hkeyword : Keyword.ofText? word = some keyword)
    (hnot : keyword ≠ .NOT) (place place' : Place) (rest : List Lexeme) :
    negation u levels (⟨.word word none, place⟩ :: ⟨.sign .leftParen, place'⟩ :: rest) =
      simplePredicate u levels (some keyword) true (⟨.word word none, place⟩ :: ⟨.sign .leftParen, place'⟩ :: rest) := by
  set input : List Lexeme := ⟨.word word none, place⟩ :: ⟨.sign .leftParen, place'⟩ :: rest
  have hkeyword' : (Token.word word none).keyword? = some keyword := hkeyword
  have hclosing : Grammar.closingSign? u.dialect (.word word none) = none := by cases u.dialect <;> rfl
  have hpeek : read Phrase.peek input = .ok (some (.word word none), input) := rfl
  have hcalled : read Grammar.parenFollows input = .ok (true, input) := rfl
  have hnone : read (Phrase.acceptWord "NOT") input = .ok (none, input) :=
    read_of_ok (Yields.acceptIf_none (.cons (Token.isWord_not_of_keyword hkeyword hnot) _))
  have hprimary : ∀ group?, primary u levels group? input = simplePredicate u levels (some keyword) true input := by
    intro group?
    rw [primary, bind_of_ok hpeek]
    dsimp only
    rw [hclosing, hkeyword']
    exact bind_of_ok hcalled
  have hnegation : ∀ inner?,
      negationWith u levels inner? input = simplePredicate u levels (some keyword) true input := by
    intro inner?
    rw [negationWith, bind_of_ok hnone]
    exact hprimary _
  cases levels <;> exact hnegation _

theorem joined_of_ok {word : String} {production : Production} {combine : Predicate → Predicate → Predicate}
    {item : Translation Predicate} {p : Predicate} (h : item lexemes = .ok (p, [])) :
    joined u word production combine item lexemes = .ok (p, []) := by
  rw [joined, bind_of_ok h]
  rfl

theorem filter_of_negation {p : Predicate} (h : negation u levels lexemes = .ok (p, [])) :
    filter u levels lexemes = .ok (p, []) := joined_of_ok (joined_of_ok h)

theorem filter_stops {stop : Stop} (h : negation u levels lexemes = .error stop) :
    filter u levels lexemes = .error stop :=
  bind_of_error (bind_of_error h)

theorem expression_of_operand {x : Expression} (h : factor u levels (deeper u levels) lexemes = .ok (x, [])) :
    expression u levels lexemes = .ok (x, []) := by
  rw [expression_eq]
  exact sumOf_of_operand h nofun

theorem expression_stops {stop : Stop} (h : factor u levels (deeper u levels) lexemes = .error stop) :
    expression u levels lexemes = .error stop := by
  rw [expression_eq]
  exact bind_of_error (bind_of_error h)

end Translation

/-! ### Answers of compilers -/

section Compiled

variable {compiler : Compiler} {statement : String} (hscan : scan statement = .ok lexemes)

include hscan

theorem compileFilter_of_ok {p : Predicate}
    (h : Translation.filter compiler.setting maxNesting lexemes = .ok (p, [])) :
    (compiler.compileFilter statement).result = .ok p :=
  ((toEnd_eq_ok.mpr h) ▸ compileFilter_reports (u := compiler.setting) hscan).of_ok

theorem compileFilter_of_finding {f : Finding}
    (h : Translation.filter compiler.setting maxNesting lexemes = .error (.finding f)) :
    (compiler.compileFilter statement).result = .error (.error (f.inStatement statement)) := by
  have hsaid : Translation.filterStatement compiler.setting lexemes = .error (.finding f) := bind_of_error h
  have hresult := compileFilter_eq (u := compiler.setting) (fun _ => rfl) hscan
  rw [hsaid] at hresult
  exact hresult

theorem compileExpression_of_ok {x : Expression}
    (h : Translation.expression compiler.setting maxNesting lexemes = .ok (x, [])) :
    (compiler.compileExpression statement).result = .ok x :=
  ((toEnd_eq_ok.mpr h) ▸ compileExpression_reports (u := compiler.setting) hscan).of_ok

theorem compileExpression_of_finding {f : Finding}
    (h : Translation.expression compiler.setting maxNesting lexemes = .error (.finding f)) :
    (compiler.compileExpression statement).result = .error (.error (f.inStatement statement)) := by
  have hsaid : Translation.expressionStatement compiler.setting lexemes = .error (.finding f) := bind_of_error h
  have hresult := compileExpression_eq (u := compiler.setting) (fun _ => rfl) hscan
  rw [hsaid] at hresult
  exact hresult

end Compiled

end GeoFilter
