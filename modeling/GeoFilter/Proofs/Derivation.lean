import GeoFilter.Proofs.Translation.Number
import GeoFilter.Tree.Factory

/-!
# Derivations of expressions

The grammar of expressions without geometries, as a grammar is written down:

    E ::= T | E + T | E - T
    T ::= F | T * F | T / F
    F ::= [-] number | text | TRUE | FALSE | ( E ) | name ( [E {, E}] ) | word {. word | : word}

A `Nonterminal` has the trees that are derived from it, with the tokens and the value of each tree.  A tree of
`expressions n` has at most `n` parentheses and arguments open at any point.
-/

namespace GeoFilter

/-- The derivation trees of a part of the grammar, with the tokens and the value of each. -/
structure Nonterminal (V : Type) where
  Tree : Type
  tokens : Tree → List Token
  value : Tree → V

def Nonterminal.Derives (N : Nonterminal V) (tokens : List Token) (v : V) : Prop :=
  ∃ t : N.Tree, N.tokens t = tokens ∧ N.value t = v

/-! ### Words -/

/-- The truth value that a word without quotes stands for. -/
def Token.truth? (token : Token) : Option Bool :=
  match token.keyword? with
  | some .TRUE => some true
  | some .FALSE => some false
  | _ => none

/-- A word without quotes that stands for a truth value. -/
structure TruthWord where
  text : String
  value : Bool
  stands : (Token.word text none).truth? = some value

/-- A word that may start an attribute or a function call, with the quote around it if there is one. -/
structure Name where
  text : String
  quote : Option Char
  free : (Token.word text quote).truth? = none

def Name.token (name : Name) : Token := .word name.text name.quote

/-- A word of an attribute after its first one, and what joins it to the words before. -/
inductive NamePart where
  | point (text : String) (quote : Option Char)
  | colon (text : String) (quote : Option Char)

def NamePart.tokens : NamePart → List Token
  | .point text quote => [.sign .period, .word text quote]
  | .colon text quote => [.sign .colon, .word text quote]

/-- The segments of an attribute from the current one on. -/
def NamePart.segments (current : String) : List NamePart → List String
  | [] => [current]
  | .point text _ :: more => current :: segments text more
  | .colon text _ :: more => segments (current ++ ":" ++ text) more

/-! ### Numbers -/

/-- The number that a literal text writes, with a minus in front of it or not. -/
def Number.readSigned? (negative : Bool) (text : String) : Option Number :=
  if negative then (readLiteral? text).bind negate? else readLiteral? text

/-- A number with its sign. -/
structure SignedNumber where
  negative : Bool
  text : String
  long : Bool
  value : Number
  reads : Number.readSigned? negative text = some value

def SignedNumber.tokens (n : SignedNumber) : List Token :=
  if n.negative then [.sign .minus, .number n.text n.long] else [.number n.text n.long]

def SignedNumber.signedText (n : SignedNumber) : String :=
  if n.negative then "-" ++ n.text else n.text

/-! ### Operands -/

/-- An operand, with the trees of the expressions one level deeper. -/
inductive Factor (E : Type) where
  | number (n : SignedNumber)
  | quoted (text : String)
  | truth (word : TruthWord)
  | group (inner : E)
  | call (name : Name) (arguments : List E)
  | property (first : Name) (more : List NamePart)

/-- The tokens of some trees with commas between them. -/
def commaTokens (tokens : E → List Token) : List E → List Token
  | [] => []
  | e :: es => tokens e ++ es.flatMap fun e => .sign .comma :: tokens e

def Factor.tokens (E : Nonterminal Expression) : Factor E.Tree → List Token
  | .number n => n.tokens
  | .quoted text => [.quoted text]
  | .truth word => [.word word.text none]
  | .group inner => .sign .leftParen :: (E.tokens inner ++ [.sign .rightParen])
  | .call name arguments =>
    name.token :: .sign .leftParen :: (commaTokens E.tokens arguments ++ [.sign .rightParen])
  | .property first more => first.token :: more.flatMap NamePart.tokens

def Factor.value (E : Nonterminal Expression) : Factor E.Tree → Expression
  | .number n => .literal (.number n.value)
  | .quoted text => .literal (.string text)
  | .truth word => .literal (.boolean word.value)
  | .group inner => E.value inner
  | .call name arguments => .function name.text (arguments.map E.value)
  | .property first more => .property ⟨NamePart.segments first.text more⟩

/-! ### Operators -/

abbrev Operator := Sign × ArithmeticOp

/-- An operator and the operand behind it. -/
structure Next (ops : List Operator) (A : Type) where
  operator : Operator
  mem : operator ∈ ops
  operand : A

/-- Operands with operators between them; the left operand of an operator is everything in front of it. -/
inductive LeftGrouped (ops : List Operator) (A : Type) where
  | single (operand : A)
  | more (left : LeftGrouped ops A) (next : Next ops A)

variable {ops : List Operator}

def Next.tokens (A : Nonterminal Expression) (next : Next ops A.Tree) : List Token :=
  .sign next.operator.1 :: A.tokens next.operand

def LeftGrouped.tokens (A : Nonterminal Expression) : LeftGrouped ops A.Tree → List Token
  | .single operand => A.tokens operand
  | .more left next => left.tokens A ++ next.tokens A

def LeftGrouped.value (A : Nonterminal Expression) : LeftGrouped ops A.Tree → Expression
  | .single operand => A.value operand
  | .more left next => .arithmetic next.operator.2 (left.value A) (A.value next.operand)

/-! ### Expressions -/

def nothing : Nonterminal Expression := ⟨Empty, nofun, nofun⟩

/-- Operands around expressions one level deeper. -/
def factors (E : Nonterminal Expression) : Nonterminal Expression :=
  ⟨Factor E.Tree, Factor.tokens E, Factor.value E⟩

def leftGrouped (ops : List Operator) (A : Nonterminal Expression) : Nonterminal Expression :=
  ⟨LeftGrouped ops A.Tree, LeftGrouped.tokens A, LeftGrouped.value A⟩

def productOperators : List Operator := [(.star, .mul), (.slash, .div)]

def sumOperators : List Operator := [(.plus, .add), (.minus, .sub)]

def sums (A : Nonterminal Expression) : Nonterminal Expression :=
  leftGrouped sumOperators (leftGrouped productOperators A)

/-- Expressions with at most the given number of levels open at any point. -/
def expressions : Nat → Nonterminal Expression
  | 0 => sums (factors nothing)
  | levels + 1 => sums (factors (expressions levels))

end GeoFilter
