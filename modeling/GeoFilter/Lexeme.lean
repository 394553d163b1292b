import GeoFilter.Diagnostic
import GeoFilter.Tree.Predicate

/-!
# Lexemes

The pieces a statement is cut into: words, numbers, quoted texts and signs, each with its place.  Words
that the grammar reserves in some position are recognised as a `Keyword`.
-/

namespace GeoFilter

/-- The signs that the grammar uses. -/
inductive Sign where
  | leftParen
  | rightParen
  | leftBracket
  | rightBracket
  | comma
  | semicolon
  | period
  | colon
  | plus
  | minus
  | star
  | slash
  | equal
  | notEqual
  | less
  | lessEqual
  | greater
  | greaterEqual
  deriving DecidableEq, Repr

def Sign.spelling : Sign → String
  | leftParen => "("
  | rightParen => ")"
  | leftBracket => "["
  | rightBracket => "]"
  | comma => ","
  | semicolon => ";"
  | period => "."
  | colon => ":"
  | plus => "+"
  | minus => "-"
  | star => "*"
  | slash => "/"
  | equal => "="
  | notEqual => "<>"
  | less => "<"
  | lessEqual => "<="
  | greater => ">"
  | greaterEqual => ">="

/-- A piece of a statement. -/
inductive Token where
  /-- A word, with the quote around it if there is one. -/
  | word (text : String) (quote : Option Char)
  /-- A number without sign; `long` if it has the mark of a long integer. -/
  | number (text : String) (long : Bool)
  /-- A text between single quotes. -/
  | quoted (text : String)
  /-- A sign of the grammar. -/
  | sign (sign : Sign)
  /-- A piece that the grammar has no use for. -/
  | other (spelling : String)
  deriving DecidableEq, Repr

namespace Token

def spelling : Token → String
  | word text none => text
  | word text (some q) => q.toString ++ text ++ q.toString
  | number text long => if long then text ++ "L" else text
  | quoted text => "'" ++ text ++ "'"
  | sign s => s.spelling
  | other spelling => spelling

/-- How a piece is named in messages and what the tree is built from: words, numbers and quoted texts
without quotes and marks. -/
def text : Token → String
  | word text _ => text
  | number text _ => text
  | quoted text => text
  | sign s => s.spelling
  | other spelling => spelling

end Token

/-- A token at its place in the statement. -/
structure Lexeme where
  token : Token
  place : Place
  deriving DecidableEq, Repr

def Lexeme.source (l : Lexeme) : SourceToken :=
  ⟨l.token.text, l.place⟩

/-- The kinds of geometry text. -/
inductive Shape where
  | point
  | lineString
  | polygon
  | multiPoint
  | multiLineString
  | multiPolygon
  | collection
  deriving DecidableEq, Repr

/-- The words that are reserved in some position. -/
inductive Keyword where
  | INCLUDE
  | EXCLUDE
  | ID
  | IN
  | BBOX
  | DWITHIN
  | BEYOND
  | RELATE
  | NOT
  | LIKE
  | ILIKE
  | BETWEEN
  | IS
  | TRUE
  | FALSE
  | SRID
  | ENVELOPE
  /-- The name of a spatial relation. -/
  | relation (op : SpatialOp)
  /-- A word for an operator of comparison. -/
  | comparison (op : ComparisonOp)
  /-- The name of a kind of geometry text. -/
  | shape (shape : Shape)
  deriving DecidableEq, Repr

namespace Keyword

def table : List (String × Keyword) :=
  [("INCLUDE", INCLUDE), ("EXCLUDE", EXCLUDE), ("ID", ID), ("IN", IN), ("BBOX", BBOX),
    ("DWITHIN", DWITHIN), ("BEYOND", BEYOND), ("RELATE", RELATE), ("NOT", NOT), ("LIKE", LIKE),
    ("ILIKE", ILIKE), ("BETWEEN", BETWEEN), ("IS", IS), ("TRUE", TRUE), ("FALSE", FALSE),
    ("SRID", SRID), ("ENVELOPE", ENVELOPE),
    ("EQ", comparison .eq), ("NEQ", comparison .notEq), ("LT", comparison .lt),
    ("LTE", comparison .ltEq), ("GT", comparison .gt), ("GTE", comparison .gtEq),
    ("POINT", shape .point), ("LINESTRING", shape .lineString), ("POLYGON", shape .polygon),
    ("MULTIPOINT", shape .multiPoint), ("MULTILINESTRING", shape .multiLineString),
    ("MULTIPOLYGON", shape .multiPolygon), ("GEOMETRYCOLLECTION", shape .collection)]
    ++ SpatialOp.routines.map fun op => (op.symbol, relation op)

def ofText? (text : String) : Option Keyword :=
  table.lookup (Text.upperCased text)

end Keyword

namespace Token

def keyword? : Token → Option Keyword
  | word text none => Keyword.ofText? text
  | _ => none

/-- Whether the token is the given word without quotes, up to the case of ASCII letters. -/
def isWord (w : String) : Token → Bool
  | word text none => Text.sameIgnoringAsciiCase text w
  | _ => false

end Token

end GeoFilter
