import GeoFilter.Grammar.Statement
import GeoFilter.Proofs.Translation.Predicate

/-!
# Statements, translated

The predicate, the expression or the list of predicates that a whole statement writes.
-/

namespace GeoFilter.Translation

variable (u : Setting)

def toEnd (body : Translation α) : Translation α := do
  let a ← body
  read Grammar.statementEnd
  return a

def filterStatement : Translation Predicate :=
  toEnd (filter u maxNesting)

def expressionStatement : Translation Expression :=
  toEnd (expression u maxNesting)

/-- Filters with semicolons between them and perhaps one after the last, at most `fuel` of them. -/
def filterList : Nat → List Lexeme → Except Stop (List Predicate)
  | 0, _ => .ok []
  | fuel + 1, lexemes =>
    match filter u maxNesting lexemes with
    | .error stop => .error stop
    | .ok (p, []) => .ok [p]
    | .ok (p, l :: rest) =>
      if l.token = .sign .semicolon then
        if rest.isEmpty then .ok [p] else (filterList fuel rest).map (p :: ·)
      else .error (.fault (.unexpected "';' or end of statement" l.source))

def listStatement (lexemes : List Lexeme) : Except Stop (List Predicate) :=
  filterList u (lexemes.length + 1) lexemes

end GeoFilter.Translation
