/-!
# Places in a statement

Lines and columns, both counted from one.  A line feed ends a line, together with a carriage return
directly before it; every other character takes one column.
-/

namespace GeoFilter

/-- A line and a column. -/
structure Place where
  line : Nat
  column : Nat
  deriving DecidableEq, Repr

namespace Place

def start : Place := ⟨1, 1⟩

def next (p : Place) (c : Char) : Place :=
  if c = '\n' then ⟨p.line + 1, 1⟩ else ⟨p.line, p.column + 1⟩

def after (p : Place) (cs : List Char) : Place :=
  cs.foldl next p

end Place

/-- The lines of a text, without their ends.  A line end at the very end starts no further line. -/
def textLines : List Char → List (List Char)
  | [] => []
  | '\n' :: cs => [] :: textLines cs
  | '\r' :: '\n' :: cs => [] :: textLines cs
  | c :: cs =>
    match textLines cs with
    | [] => [[c]]
    | line :: more => (c :: line) :: more

def endPlace (statement : String) : Place :=
  let lines := textLines statement.toList
  ⟨max lines.length 1, (lines.getLastD []).length + 1⟩

end GeoFilter
