import GeoFilter.Grammar.Number
import GeoFilter.Proofs.Translation

/-!
# Numbers, translated

The value of a number and of the minus in front of it.
-/

namespace GeoFilter

/-- The number that a literal text writes, of the kind its spelling asks for. -/
def Number.readLiteral? (text : String) : Option Number :=
  if Grammar.isFloatingText text then readFloating? text else readIntegral? text

/-- The number that a token writes, in the given way of reading, or the finding that it writes none. -/
def numberOf (read? : String → Option Number) (token : SourceToken) : Except Finding Number :=
  orFinding (read? token.text) (.invalidNumber token)

theorem orFinding_eq_ok {a? : Option α} {finding : Finding} {a : α} (h : orFinding a? finding = .ok a) :
    a? = some a := by
  unfold orFinding at h
  split at h
  · cases h
    rfl
  · cases h

/-- The opposite of a number, which stands behind a minus. -/
def negated (minus token : SourceToken) (n : Number) : Except Finding Number :=
  orFinding n.negate? (.invalidNumber (Grammar.signedToken minus token))

namespace Translation

def sign (u : Setting) (minus? : Option SourceToken) (token : SourceToken) (n : Number) :
    Translation Number :=
  match minus? with
  | some minus => complete u .negativeNumber [minus] (negated minus token n)
  | none => return n

theorem sign_eq_ok {u : Setting} {minus? : Option SourceToken} {token : SourceToken} {n v : Number}
    {input rest : List Lexeme}
    (h : sign u minus? token n input = .ok (v, rest)) :
    rest = input ∧ if minus?.isSome then n.negate? = some v else v = n := by
  cases minus? with
  | none =>
    cases h
    exact ⟨rfl, rfl⟩
  | some minus =>
    obtain ⟨_, hvalue, rfl⟩ := complete_eq_ok h
    exact ⟨rfl, orFinding_eq_ok hvalue⟩

/-- A number, read as an integer where one fits, with its sign and the tokens of both. -/
def signedNumber (u : Setting) (production : Production) :
    Translation (Number × Option SourceToken × SourceToken) := do
  let n ← read Grammar.signed
  let v ← complete u production [n.2] (numberOf Number.readIntegral? n.2)
  let v ← sign u n.1 n.2 v
  return (v, n)

def signedLiteral (u : Setting) : Translation Number := do
  let n ← read Grammar.signed
  let v ← complete u (if Grammar.isFloatingText n.2.text then .floatingLiteral else .integerLiteral)
    [n.2] (numberOf Number.readLiteral? n.2)
  sign u n.1 n.2 v

end Translation

end GeoFilter
