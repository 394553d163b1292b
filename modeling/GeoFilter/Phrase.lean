import GeoFilter.Lexeme
import GeoFilter.Production

/-!
# Phrases

A `Phrase` reads something off the front of a list of lexemes.  Its `Reading` has the reductions that
were completed on the way, also if the reading then met a fault.  What a phrase reads depends on the
lexemes alone, never on what the reductions are used for.
-/

namespace GeoFilter

/-- Why a phrase cannot be read on. -/
inductive SyntaxFault where
  /-- Another token than the phrase allows. -/
  | unexpected (expected : String) (found : SourceToken)
  /-- The end of the statement inside a phrase. -/
  | endReached (expected : String)
  /-- One level of nesting more than allowed, opened by the given token. -/
  | tooDeep (opener : SourceToken)
  deriving DecidableEq, Repr

def maxNesting : Nat := 128

/-- The finding of a fault.  At the end of the statement it is found at the given token. -/
def SyntaxFault.toFinding (fault : SyntaxFault) (atEnd : SourceToken) : Finding :=
  match fault with
  | .unexpected expected found => .unexpected expected found
  | .endReached expected => ⟨.endReached expected, atEnd, none⟩
  | .tooDeep opener => ⟨.tooDeep maxNesting, opener, none⟩

/-- What came of reading a phrase: the reductions completed, and then either a value and the lexemes
that follow or a fault. -/
structure Reading (α : Type) where
  reductions : List Reduction
  outcome : Except SyntaxFault (α × List Lexeme)

def Phrase (α : Type) : Type :=
  List Lexeme → Reading α

namespace Phrase

def pure (a : α) : Phrase α := fun input => ⟨[], .ok (a, input)⟩

/-- One phrase and then another, unless the first meets a fault. -/
def bind (phrase : Phrase α) (next : α → Phrase β) : Phrase β := fun input =>
  match phrase input with
  | ⟨done, .ok (a, rest)⟩ =>
    let r := next a rest
    { r with reductions := done ++ r.reductions }
  | ⟨done, .error fault⟩ => ⟨done, .error fault⟩

instance : Monad Phrase where
  pure := pure
  bind := bind

def fail (fault : SyntaxFault) : Phrase α := fun _ => ⟨[], .error fault⟩

def reduce (production : Production) (tokens : List SourceToken) : Phrase Unit := fun input =>
  ⟨[⟨production, tokens⟩], .ok ((), input)⟩

def peek : Phrase (Option Token) := fun input =>
  ⟨[], .ok (input.head?.map Lexeme.token, input)⟩

def peekSecond : Phrase (Option Token) := fun input =>
  ⟨[], .ok (input.tail.head?.map Lexeme.token, input)⟩

def unexpected (expected : String) : Phrase α := fun input =>
  match input with
  | l :: _ => ⟨[], .error (.unexpected expected l.source)⟩
  | [] => ⟨[], .error (.endReached expected)⟩

def here (expected : String) : Phrase SourceToken := fun input =>
  match input with
  | l :: _ => ⟨[], .ok (l.source, input)⟩
  | [] => ⟨[], .error (.endReached expected)⟩

/-- Takes the next token, whatever it is. -/
def next (expected : String) : Phrase SourceToken := fun input =>
  match input with
  | l :: rest => ⟨[], .ok (l.source, rest)⟩
  | [] => ⟨[], .error (.endReached expected)⟩

def acceptIf (sort : Token → Bool) : Phrase (Option SourceToken) := fun input =>
  match input with
  | l :: rest => if sort l.token then ⟨[], .ok (some l.source, rest)⟩ else ⟨[], .ok (none, input)⟩
  | [] => ⟨[], .ok (none, input)⟩

def accept (sign : Sign) : Phrase (Option SourceToken) :=
  acceptIf (· == .sign sign)

/-- Takes the next token if it is the given word, up to the case of ASCII letters. -/
def acceptWord (word : String) : Phrase (Option SourceToken) :=
  acceptIf (Token.isWord word)

def expectIf (sort : Token → Bool) (expected : String) : Phrase SourceToken := do
  match ← acceptIf sort with
  | some token => return token
  | none => unexpected expected

def expect (sign : Sign) : Phrase SourceToken :=
  expectIf (· == .sign sign) ("'" ++ sign.spelling ++ "'")

/-- Takes the next token, which has to be the given sign and says no more than that. -/
def require (sign : Sign) : Phrase Unit := do
  let _ ← expect sign
  return ()

/-- Takes the next token, which has to be the given word, up to the case of ASCII letters. -/
def expectWord (word : String) : Phrase SourceToken :=
  expectIf (Token.isWord word) word

/-- Reads a phrase after every separator, as long as there is one and at most `fuel` times. -/
def repeatUpTo (separator : Phrase (Option α)) (phrase : α → Phrase Unit) : Nat → Phrase Unit
  | 0 => pure ()
  | fuel + 1 => do
    match ← separator with
    | some a =>
      phrase a
      repeatUpTo separator phrase fuel
    | none => return ()

/-- Reads a phrase after every separator, as long as there is one.  A separator takes a lexeme, so there
are no more of them than lexemes. -/
def repeatAfter (separator : Phrase (Option α)) (phrase : α → Phrase Unit) : Phrase Unit := fun input =>
  repeatUpTo separator phrase input.length input

def commaSeparated (phrase : Phrase Unit) : Phrase Unit := do
  phrase
  repeatAfter (accept .comma) fun _ => phrase

def parenthesized (phrase : Phrase α) : Phrase α := do
  require .leftParen
  let a ← phrase
  require .rightParen
  return a

/-- A phrase one level deeper, which the given token opens, if there is a level left. -/
def nested (inner? : Option (Phrase α)) (opener : SourceToken) : Phrase α :=
  match inner? with
  | some inner => inner
  | none => fail (.tooDeep opener)

end Phrase

end GeoFilter
