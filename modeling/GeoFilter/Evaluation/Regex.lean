import GeoFilter.Text.CaseFold

/-!
# Regular expressions

Patterns are matched with a library of regular expressions.  What the library does is a parameter; the instance below is
an engine for the expressions that patterns are translated into, which are rows of anchors, dots and single characters,
with a flag in front if case is ignored.  It has no limit of size, so it refuses only what is no such row.

`matchTable` goes through a row from its end and keeps, for every place of the text, whether the row so far matches
there, so the work is the product of the two lengths.
-/

namespace GeoFilter

/-- A library of regular expressions. -/
class RegexLibrary where
  /-- The expression for a text that stands for itself. -/
  escape : String → String
  /-- What an expression tells of a text: whether there is a match in it.  A library may refuse an expression. -/
  compile? : String → Option (String → Bool)

namespace Regex

/-- A part of a regular expression. -/
inductive Part where
  /-- The start of the text. -/
  | start
  /-- The end of the text. -/
  | finish
  /-- Any one character but a line feed. -/
  | one
  /-- Any run of characters but line feeds. -/
  | run
  /-- The character itself. -/
  | exactly (c : Char)
  deriving DecidableEq, Repr

def metaChars : List Char :=
  ['\\', '.', '+', '*', '?', '(', ')', '|', '[', ']', '\x7b', '\x7d', '^', '$', '#', '&', '-', '~']

def escapeChar (c : Char) : List Char :=
  if metaChars.contains c then ['\\', c] else [c]

def parts? : List Char → Option (List Part)
  | [] => some []
  | '^' :: cs => (parts? cs).map (.start :: ·)
  | '$' :: cs => (parts? cs).map (.finish :: ·)
  | '.' :: '*' :: cs => (parts? cs).map (.run :: ·)
  | '.' :: cs => (parts? cs).map (.one :: ·)
  | '\\' :: c :: cs => if metaChars.contains c then (parts? cs).map (.exactly c :: ·) else none
  | c :: cs => if metaChars.contains c then none else (parts? cs).map (.exactly c :: ·)

def isInline (c : Char) : Bool :=
  c != '\n'

/-- From the table of the parts behind it, the table of the start of the text. -/
def afterStart : List Bool → List Bool
  | [] => []
  | matched :: table => matched :: table.map (fun _ => false)

/-- From the table of the parts behind it, the table of the end of the text. -/
def afterFinish : List Bool → List Bool
  | [] => []
  | [matched] => [matched]
  | _ :: table => false :: afterFinish table

/-- From the table of the parts behind it, the table of one character of the given sort. -/
def afterOne (sort : Char → Bool) (text : List Char) (table : List Bool) : List Bool :=
  text.zipWith (fun c matched => sort c && matched) table.tail ++ [false]

/-- From the table of the parts behind it, the table of any run of characters. -/
def afterRun : List Char → List Bool → List Bool
  | c :: cs, matched :: table =>
    let rest := afterRun cs table
    (matched || (isInline c && rest.headD false)) :: rest
  | _, table => table

/-- For every place of the text, its start first, whether the parts match there.  Characters are compared with
`alike`. -/
def matchTable (alike : Char → Char → Bool) (text : List Char) : List Part → List Bool
  | [] => true :: text.map (fun _ => true)
  | part :: parts =>
    let table := matchTable alike text parts
    match part with
    | .start => afterStart table
    | .finish => afterFinish table
    | .one => afterOne isInline text table
    | .run => afterRun text table
    | .exactly c => afterOne (alike c) text table

def finds (alike : Char → Char → Bool) (parts : List Part) (text : String) : Bool :=
  (matchTable alike text.toList parts).any id

def compile? (expression : String) : Option (String → Bool) :=
  match expression.toList with
  | '(' :: '?' :: 'i' :: ')' :: cs => (parts? cs).map (finds Text.sameFold)
  | cs => (parts? cs).map (finds (· == ·))

end Regex

instance : RegexLibrary where
  escape text := String.ofList (text.toList.flatMap Regex.escapeChar)
  compile? := Regex.compile?

end GeoFilter
