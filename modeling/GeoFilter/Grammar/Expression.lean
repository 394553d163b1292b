import GeoFilter.Grammar.Geometry

/-!
# Expressions in statements

Sums of products of attributes, literals, function calls and expressions in parentheses.  Parentheses
and arguments are one level deeper than the expression around them.
-/

namespace GeoFilter.Grammar

open Phrase

def isAnyWord : Token → Bool
  | .word .. => true
  | _ => false

def parenFollows : Phrase Bool := do
  return (← peekSecond) == some (.sign .leftParen)

/-- The names of an attribute from the given one on.  A point starts the next name; a colon joins a
namespace with a name. -/
def attributeNames (current : SourceToken) : List Lexeme → List SourceToken × List Lexeme
  | ⟨.sign .period, _⟩ :: ⟨.word text _, place⟩ :: rest =>
    let (names, rest) := attributeNames ⟨text, place⟩ rest
    (current :: names, rest)
  | ⟨.sign .colon, _⟩ :: ⟨.word text _, _⟩ :: rest =>
    attributeNames ⟨current.text ++ ":" ++ text, current.place⟩ rest
  | rest => ([current], rest)

/-- An attribute: a name, or several with points or colons between. -/
def propertyName : Phrase Unit := do
  let first ← expectIf isAnyWord "an attribute"
  let names ← fun input =>
    let (names, rest) := attributeNames first input
    (⟨[], .ok (names, rest)⟩ : Reading (List SourceToken))
  reduce .propertyName names

def argument (inner? : Option (Phrase Unit)) : Phrase Unit := do
  let token ← here "an expression"
  nested inner? token
  reduce .functionArgument [token]

def functionCall (inner? : Option (Phrase Unit)) : Phrase Unit := do
  let name ← next "a function name"
  require .leftParen
  reduce .functionName [name]
  match ← accept .rightParen with
  | some _ => Phrase.pure ()
  | none =>
    commaSeparated (argument inner?)
    require .rightParen
  reduce .function [name]

def wordFactor (dialect : Dialect) (levels : Nat) (inner? : Option (Phrase Unit))
    (keyword? : Option Keyword) : Phrase Unit := do
  let called ← parenFollows
  match keyword? with
  | some .TRUE | some .FALSE =>
    let token ← next "an expression"
    reduce .booleanLiteral [token]
  | some .SRID =>
    if (← peekSecond) == some (.sign .equal) then sridLiteral dialect levels
    else if called then functionCall inner?
    else propertyName
  | some .ENVELOPE => if called then envelope dialect else propertyName
  | some (.shape _) => if called then geometryLiteral levels else propertyName
  | _ => if called then functionCall inner? else propertyName

def factor (dialect : Dialect) (levels : Nat) (inner? : Option (Phrase Unit)) : Phrase Unit := do
  match ← peek with
  | some (.sign .minus) => signedLiteral
  | some (.number ..) => signedLiteral
  | some (.sign .leftParen) =>
    let opener ← next "an expression"
    nested inner? opener
    require .rightParen
  | some (.quoted _) =>
    let token ← next "an expression"
    reduce .stringLiteral [token]
  | some (.word text quote) =>
    wordFactor dialect levels inner? (Token.word text quote).keyword?
  | _ => unexpected "an expression"

def acceptOperator (first second : Sign × ArithmeticOp) :
    Phrase (Option (SourceToken × ArithmeticOp)) := do
  match ← accept first.1 with
  | some token => return some (token, first.2)
  | none => return (← accept second.1).map (·, second.2)

/-- Operands with operators of one strength between them, grouped from the left. -/
def leftGrouped (operators : Phrase (Option (SourceToken × ArithmeticOp))) (operand : Phrase Unit) :
    Phrase Unit := do
  operand
  repeatAfter operators fun (token, op) => do
    operand
    reduce (.arithmetic op) [token]

def sumOf (operand : Phrase Unit) : Phrase Unit :=
  leftGrouped (acceptOperator (.plus, .add) (.minus, .sub))
    (leftGrouped (acceptOperator (.star, .mul) (.slash, .div)) operand)

/-- An expression with the given number of levels left for nesting. -/
def expression (dialect : Dialect) : Nat → Phrase Unit
  | 0 => sumOf (factor dialect 0 none)
  | levels + 1 => sumOf (factor dialect (levels + 1) (some (expression dialect levels)))

end GeoFilter.Grammar
