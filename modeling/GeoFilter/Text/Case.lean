/-!
# Letter case against the Latin alphabet

Keywords and names of units are written with the letters A to Z alone.  To recognise one of them in
a text it is enough to know which characters have an upper or a lower case made of those letters:
every other character keeps some character outside the alphabet under both maps, so it can stay as
it is.
-/

namespace GeoFilter.Text

/-- The upper case of a character, for the characters whose upper case has only the letters A to Z:
the ASCII letters, the dotless i, the long and the sharp s, and the Latin ligatures. -/
def latinUpper (c : Char) : List Char :=
  match c with
  | 'ß' => ['S', 'S']
  | 'ı' => ['I']
  | 'ſ' => ['S']
  | 'ﬀ' => ['F', 'F']
  | 'ﬁ' => ['F', 'I']
  | 'ﬂ' => ['F', 'L']
  | 'ﬃ' => ['F', 'F', 'I']
  | 'ﬄ' => ['F', 'F', 'L']
  | 'ﬅ' => ['S', 'T']
  | 'ﬆ' => ['S', 'T']
  | c => [c.toUpper]

/-- The lower case of a character, for the characters whose lower case is one of the letters a to z:
the ASCII letters and the Kelvin sign. -/
def latinLower (c : Char) : Char :=
  if c.toNat = 0x212A then 'k' else c.toLower

/-- A text in upper case, as far as the letters A to Z can be told. -/
def upperCased (s : String) : String :=
  String.ofList (s.toList.flatMap latinUpper)

/-- A text in lower case, as far as the letters a to z can be told. -/
def lowerCased (s : String) : String :=
  String.ofList (s.toList.map latinLower)

def sameIgnoringAsciiCase (s t : String) : Bool :=
  s.toList.map Char.toLower == t.toList.map Char.toLower

end GeoFilter.Text
