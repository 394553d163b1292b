import GeoFilter.Grammar.Predicate

/-!
# Statements

A statement is a filter, an expression, or a list of filters separated by semicolons.  What came of
reading it is a list of parts, one for each tree to build; reading stops at the first part that is
broken.
-/

namespace GeoFilter

/-- What a statement is read as. -/
inductive EntryPoint where
  | filter
  | expression
  | list
  deriving DecidableEq, Repr

/-- What came of reading one tree: the reductions it is built by, and the fault if there is one. -/
inductive StatementPart where
  | whole (reductions : List Reduction)
  | broken (reductions : List Reduction) (fault : SyntaxFault)
  deriving DecidableEq, Repr

def Reading.toPart (r : Reading α) : StatementPart :=
  match r.outcome with
  | .ok _ => .whole r.reductions
  | .error fault => .broken r.reductions fault

namespace Grammar

open Phrase

def statementEnd : Phrase Unit := fun input =>
  match input with
  | [] => ⟨[], .ok ((), [])⟩
  | l :: _ => ⟨[], .error (.unexpected "end of statement" l.source)⟩

def toEnd (phrase : Phrase Unit) : Phrase Unit := do
  phrase
  statementEnd

def filterStatement (dialect : Dialect) : Phrase Unit :=
  toEnd (filter dialect maxNesting)

def expressionStatement (dialect : Dialect) : Phrase Unit :=
  toEnd (expression dialect maxNesting)

/-- Filters with semicolons between them and perhaps one after the last, at most `fuel` of them. -/
def filterList (dialect : Dialect) : Nat → List Lexeme → List StatementPart
  | 0, _ => []
  | fuel + 1, lexemes =>
    match filter dialect maxNesting lexemes with
    | ⟨done, .error fault⟩ => [.broken done fault]
    | ⟨done, .ok (_, rest)⟩ =>
      .whole done ::
        match rest with
        | [] => []
        | l :: rest =>
          if l.token = .sign .semicolon then
            if rest.isEmpty then [] else filterList dialect fuel rest
          else [.broken [] (.unexpected "';' or end of statement" l.source)]

/-- A list of filters as a whole statement.  Every filter takes a lexeme, so there are no more of them
than lexemes; without any lexeme the first filter is broken. -/
def listStatement (dialect : Dialect) (lexemes : List Lexeme) : List StatementPart :=
  filterList dialect (lexemes.length + 1) lexemes

def statementParts (dialect : Dialect) (lexemes : List Lexeme) : EntryPoint → List StatementPart
  | .filter => [(filterStatement dialect lexemes).toPart]
  | .expression => [(expressionStatement dialect lexemes).toPart]
  | .list => listStatement dialect lexemes

end Grammar

end GeoFilter
