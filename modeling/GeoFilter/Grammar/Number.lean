import GeoFilter.Phrase

/-!
# Numbers in statements

A number has no sign of its own; a minus in front of it is a production that follows the number's.
-/

namespace GeoFilter.Grammar

open Phrase

def isNumber : Token → Bool
  | .number .. => true
  | _ => false

def isFloatingText (text : String) : Bool :=
  text.toList.any fun c => c == '.' || c == 'e' || c == 'E'

/-- The token of a number with a minus in front, at the place of the minus. -/
def signedToken (minus number : SourceToken) : SourceToken :=
  ⟨"-" ++ number.text, minus.place⟩

def signed : Phrase (Option SourceToken × SourceToken) := do
  let minus? ← accept .minus
  let number ← expectIf isNumber "a number"
  return (minus?, number)

def withSign : Option SourceToken × SourceToken → SourceToken
  | (some minus, number) => signedToken minus number
  | (none, number) => number

def reduceSign (minus? : Option SourceToken) : Phrase Unit :=
  match minus? with
  | some minus => reduce .negativeNumber [minus]
  | none => return ()

def signedNumber (production : Production) : Phrase SourceToken := do
  let n ← signed
  reduce production [n.2]
  reduceSign n.1
  return withSign n

def signedLiteral : Phrase Unit := do
  let n ← signed
  reduce (if isFloatingText n.2.text then .floatingLiteral else .integerLiteral) [n.2]
  reduceSign n.1

end GeoFilter.Grammar
