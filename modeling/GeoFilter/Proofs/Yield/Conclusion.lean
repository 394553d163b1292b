import GeoFilter.Proofs.Yield.Expression
import GeoFilter.Proofs.Yield.Lexemes

/-!
# What statements conclude with

`Concludes c ts said`: wherever the tokens `ts` are all that is left, the translation `c` takes them and makes a value or a
finding that is as `said` asks for.  Unlike what a translation yields, its conclusion need not be known, as long as
whatever it is can be told of what the whole statement compiles to.
-/

namespace GeoFilter

open Translation (read bind_of_ok bind_of_error read_of_ok)

/-- What a translation says when some tokens are all that is left. -/
def Concludes (c : Translation α) (ts : List Token) (said : Except Finding α → Prop) : Prop :=
  ∀ input, tokensOf input = ts → ∃ r, said r ∧ c input = (r.mapError Stop.finding).map fun a => (a, [])

namespace Concludes

variable {u : Setting} {levels : Nat} {c : Translation α} {f : α → Translation β} {ts ts' : List Token}
  {said : Except Finding β → Prop}

/-! ### Parts -/

theorem complete (hpermits : ∀ red, u.permits red = true) {production : Production} {tokens : List SourceToken}
    {r : Except Finding β} (h : said r) : Concludes (Translation.complete u production tokens r) [] said := by
  intro input htokens
  obtain rfl := List.map_eq_nil_iff.mp htokens
  refine ⟨r, h, ?_⟩
  cases r with
  | error finding => exact if_pos (hpermits _)
  | ok a => exact Translation.complete_of_permits (hpermits _) a []

theorem bind {F : List Token → Prop} {v : α} (hc : Yields c ts F (some v)) (hf : Concludes (f v) ts' said) (hF : F ts') :
    Concludes (c >>= f) (ts ++ ts') said := by
  intro input htokens
  obtain ⟨rest, hread, hrest⟩ := hc input ts' htokens hF
  rw [bind_of_ok hread]
  exact hf rest hrest

theorem last {F : List Token → Prop} {v : α} (hc : Yields c ts F (some v)) (hf : Concludes (f v) [] said) (hF : F []) :
    Concludes (c >>= f) ts said := by
  have hbind := bind hc hf hF
  rwa [List.append_nil] at hbind

theorem take_bind {p : Phrase α} {token : Token} (a : Place → α)
    (hp : ∀ place rest, (p (⟨token, place⟩ :: rest)).outcome = .ok (a place, rest))
    (hf : ∀ place, Concludes (f (a place)) ts said) : Concludes (read p >>= f) (token :: ts) said := by
  intro input htokens
  obtain ⟨place, rest, rfl, hrest⟩ := tokensOf_eq_cons htokens
  rw [bind_of_ok (read_of_ok (hp place rest))]
  exact hf place rest hrest

theorem next_bind {f : SourceToken → Translation β} {expected : String} {token : Token}
    (hf : ∀ place, Concludes (f ⟨token.text, place⟩) ts said) :
    Concludes (read (Phrase.next expected) >>= f) (token :: ts) said :=
  take_bind (fun place => ⟨token.text, place⟩) (fun _ _ => rfl) hf

theorem require_bind {f : Unit → Translation β} {sign : Sign} (hf : Concludes (f ()) ts said) :
    Concludes (read (Phrase.require sign) >>= f) (.sign sign :: ts) said :=
  take_bind (fun _ => ()) (fun place rest => require_sign sign place rest) fun _ => hf

theorem look_bind {p : Phrase α} (a : α) (hp : ∀ input, tokensOf input = ts → (p input).outcome = .ok (a, input))
    (hf : Concludes (f a) ts said) : Concludes (read p >>= f) ts said := by
  intro input htokens
  rw [bind_of_ok (read_of_ok (hp input htokens))]
  exact hf input htokens

theorem peek_bind {f : Option Token → Translation β} {token : Token}
    (hf : Concludes (f (some token)) (token :: ts) said) : Concludes (read Phrase.peek >>= f) (token :: ts) said := by
  refine look_bind (some token) (fun input htokens => ?_) hf
  obtain ⟨place, rest, rfl, -⟩ := tokensOf_eq_cons htokens
  rfl

theorem second_bind {p : Phrase α} {token second : Token} (a : α)
    (hp : ∀ place place' rest, (p (⟨token, place⟩ :: ⟨second, place'⟩ :: rest)).outcome =
      .ok (a, ⟨token, place⟩ :: ⟨second, place'⟩ :: rest))
    (hf : Concludes (f a) (token :: second :: ts) said) : Concludes (read p >>= f) (token :: second :: ts) said := by
  refine look_bind a (fun input htokens => ?_) hf
  obtain ⟨place, behind, rfl, hbehind⟩ := tokensOf_eq_cons htokens
  obtain ⟨place', rest, rfl, -⟩ := tokensOf_eq_cons hbehind
  exact hp place place' rest

theorem map {said : Except Finding α → Prop} {g : α → β} {said' : Except Finding β → Prop} (h : Concludes c ts said)
    (hsaid : ∀ r, said r → said' (r.map g)) : Concludes (c >>= fun a => Pure.pure (g a)) ts said' := by
  intro input htokens
  obtain ⟨r, hr, hread⟩ := h input htokens
  refine ⟨r.map g, hsaid r hr, ?_⟩
  cases r with
  | error finding => exact bind_of_error hread
  | ok a => exact bind_of_ok hread

/-! ### Statements -/

theorem negation_called {word : String} {keyword : Keyword} (hkeyword : Keyword.ofText? word = some keyword)
    (hnot : keyword ≠ .NOT) {said : Except Finding Predicate → Prop}
    (h : Concludes (Translation.simplePredicate u levels (some keyword) true) (.word word none :: .sign .leftParen :: ts)
      said) :
    Concludes (Translation.negation u levels) (.word word none :: .sign .leftParen :: ts) said := by
  intro input htokens
  obtain ⟨place, behind, rfl, hbehind⟩ := tokensOf_eq_cons htokens
  obtain ⟨place', rest, rfl, -⟩ := tokensOf_eq_cons hbehind
  rw [Translation.negation_eq_simplePredicate hkeyword hnot]
  exact h _ htokens

theorem expression {said : Except Finding Expression → Prop}
    (h : Concludes (Translation.factor u levels (Translation.deeper u levels)) ts said) :
    Concludes (Translation.expression u levels) ts said := by
  intro input htokens
  obtain ⟨r, hr, hread⟩ := h input htokens
  refine ⟨r, hr, ?_⟩
  cases r with
  | error finding => exact Translation.expression_stops hread
  | ok x => exact Translation.expression_of_operand hread

theorem filter {said : Except Finding Predicate → Prop} (h : Concludes (Translation.negation u levels) ts said) :
    Concludes (Translation.filter u levels) ts said := by
  intro input htokens
  obtain ⟨r, hr, hread⟩ := h input htokens
  refine ⟨r, hr, ?_⟩
  cases r with
  | error finding => exact Translation.filter_stops hread
  | ok p => exact Translation.filter_of_negation hread

section Compiled

variable {compiler : Compiler} {statement : String} {lexemes : List Lexeme} (hscan : scan statement = .ok lexemes)
  (htokens : tokensOf lexemes = ts)

include hscan htokens

theorem compileExpression {said : Except Finding Expression → Prop}
    (h : Concludes (Translation.expression compiler.setting maxNesting) ts said) :
    ∃ r, said r ∧ (compiler.compileExpression statement).result =
      r.mapError fun f => .error (f.inStatement statement) := by
  obtain ⟨r, hr, hread⟩ := h lexemes htokens
  refine ⟨r, hr, ?_⟩
  cases r with
  | error finding => exact compileExpression_of_finding hscan hread
  | ok x => exact compileExpression_of_ok hscan hread

theorem compileFilter {said : Except Finding Predicate → Prop}
    (h : Concludes (Translation.filter compiler.setting maxNesting) ts said) :
    ∃ r, said r ∧ (compiler.compileFilter statement).result =
      r.mapError fun f => .error (f.inStatement statement) := by
  obtain ⟨r, hr, hread⟩ := h lexemes htokens
  refine ⟨r, hr, ?_⟩
  cases r with
  | error finding => exact compileFilter_of_finding hscan hread
  | ok x => exact compileFilter_of_ok hscan hread

end Compiled

end Concludes

end GeoFilter
