import GeoFilter.Grammar.Expression
import GeoFilter.Proofs.Translation.Geometry

/-!
# Expressions, translated

The expression that sums of products of operands write.
-/

namespace GeoFilter.Translation

open Phrase (here accept next require)

variable (u : Setting)

/-- The names of an attribute after its first one. -/
def attributeTail (first : SourceToken) : Phrase (List SourceToken) := fun input =>
  ⟨[], .ok (Grammar.attributeNames first input)⟩

theorem attributeNames_ne_nil (current : SourceToken) (input : List Lexeme) :
    (Grammar.attributeNames current input).1 ≠ [] := by
  fun_induction Grammar.attributeNames current input
  case case1 => exact List.cons_ne_nil _ _
  case case2 ih => exact ih
  case case3 => exact List.cons_ne_nil _ _

theorem attributeNames_suffix (current : SourceToken) (input : List Lexeme) :
    (Grammar.attributeNames current input).2 <:+ input := by
  fun_induction Grammar.attributeNames current input
  case case1 hread ih =>
    rw [hread] at ih
    exact ih.trans ((List.suffix_cons _ _).trans (List.suffix_cons _ _))
  case case2 ih => exact ih.trans ((List.suffix_cons _ _).trans (List.suffix_cons _ _))
  case case3 => exact List.suffix_rfl

theorem attributeNames_head (current : SourceToken) (input : List Lexeme) :
    ∃ text names, (Grammar.attributeNames current input).1 = ⟨text, current.place⟩ :: names := by
  fun_induction Grammar.attributeNames current input
  case case1 => exact ⟨_, _, rfl⟩
  case case2 ih => exact ih
  case case3 => exact ⟨_, _, rfl⟩

def propertyName : Translation Expression := do
  let first ← read (Phrase.expectIf Grammar.isAnyWord "an attribute")
  let names ← read (attributeTail first)
  complete u .propertyName names (.ok (u.kit.factory.property (names.map SourceToken.text)))

def argument (inner? : Option (Translation Expression)) : Translation Expression := do
  let token ← read (here "an expression")
  let x ← nested inner? token
  complete u .functionArgument [token] (.ok x)

def functionCall (inner? : Option (Translation Expression)) : Translation Expression := do
  let name ← read (next "a function name")
  read (require .leftParen)
  complete u .functionName [name] (.ok ())
  match ← read (accept .rightParen) with
  | some _ => complete u .function [name] (.ok (u.kit.factory.function name.text []))
  | none =>
    let (x, xs) ← commaSeparated (argument u inner?)
    read (require .rightParen)
    complete u .function [name] (.ok (u.kit.factory.function name.text (x :: xs)))

def ofGeometry (literal : Translation GeometryLiteral) : Translation Expression := do
  let g ← literal
  return .literal (.geometry g)

/-- A geometry literal without a reference system as an expression. -/
def plainGeometry (levels : Nat) : Translation Expression := do
  let g ← geometryLiteral u levels
  return .literal (.geometry ⟨g, none⟩)

def wordFactor (levels : Nat) (inner? : Option (Translation Expression)) (keyword? : Option Keyword) :
    Translation Expression := do
  let called ← read Grammar.parenFollows
  match keyword? with
  | some .TRUE | some .FALSE =>
    let token ← read (next "an expression")
    complete u .booleanLiteral [token]
      (.ok (.literal (.boolean (Text.sameIgnoringAsciiCase token.text "true"))))
  | some .SRID =>
    if (← read Phrase.peekSecond) == some (.sign .equal) then ofGeometry (sridLiteral u levels)
    else if called then functionCall u inner?
    else propertyName u
  | some .ENVELOPE => if called then ofGeometry (envelope u) else propertyName u
  | some (.shape _) => if called then plainGeometry u levels else propertyName u
  | _ => if called then functionCall u inner? else propertyName u

def factor (levels : Nat) (inner? : Option (Translation Expression)) : Translation Expression := do
  match ← read Phrase.peek with
  | some (.sign .minus) => do
    let n ← signedLiteral u
    return .literal (.number n)
  | some (.number ..) => do
    let n ← signedLiteral u
    return .literal (.number n)
  | some (.sign .leftParen) =>
    let opener ← read (next "an expression")
    let x ← nested inner? opener
    read (require .rightParen)
    return x
  | some (.quoted _) =>
    let token ← read (next "an expression")
    complete u .stringLiteral [token] (.ok (.literal (.string token.text)))
  | some (.word text quote) => wordFactor u levels inner? (Token.word text quote).keyword?
  | _ => read (Phrase.unexpected "an expression")

/-- An operand after an operator, with that operator. -/
def nextOperand (operand : Translation Expression) :
    SourceToken × ArithmeticOp → Translation (ArithmeticOp × Expression)
  | (token, op) => do
    let x ← operand
    complete u (.arithmetic op) [token] (.ok (op, x))

/-- An expression followed by operators and operands, grouped from the left. -/
def grouped (x : Expression) (more : List (ArithmeticOp × Expression)) : Expression :=
  more.foldl (fun left next => u.kit.factory.arithmetic next.1 left next.2) x

theorem grouped_append (x y : Expression) (more : List (ArithmeticOp × Expression)) (op : ArithmeticOp) :
    grouped u x (more ++ [(op, y)]) = u.kit.factory.arithmetic op (grouped u x more) y := by
  rw [grouped, List.foldl_append]
  rfl

/-- Operands with operators of one strength between them. -/
def leftGrouped (operators : Phrase (Option (SourceToken × ArithmeticOp)))
    (operand : Translation Expression) : Translation Expression := do
  let x ← operand
  let more ← repeatAfter operators (nextOperand u operand)
  return grouped u x more

def sumOf (operand : Translation Expression) : Translation Expression :=
  leftGrouped u (Grammar.acceptOperator (.plus, .add) (.minus, .sub))
    (leftGrouped u (Grammar.acceptOperator (.star, .mul) (.slash, .div)) operand)

/-- An expression with the given number of levels left for nesting. -/
def expression : Nat → Translation Expression
  | 0 => sumOf u (factor u 0 none)
  | levels + 1 => sumOf u (factor u (levels + 1) (some (expression levels)))

/-- What reads the expressions one level deeper, if there is a level left. -/
def deeper : Nat → Option (Translation Expression)
  | 0 => none
  | levels + 1 => some (expression u levels)

theorem expression_eq (levels : Nat) : expression u levels = sumOf u (factor u levels (deeper u levels)) := by
  cases levels <;> rfl

end GeoFilter.Translation
