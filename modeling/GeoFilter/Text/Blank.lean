/-!
# Blank characters

The white space of the Unicode standard, and the two ways text is cut at it: `trimmed` removes it
at both ends, `blankSeparated` splits at every run of it.
-/

namespace GeoFilter.Text

def isBlank (c : Char) : Bool :=
  let n := c.toNat
  (9 ≤ n && n ≤ 13) || n == 32 || n == 0x85 || n == 0xA0 || n == 0x1680
    || (0x2000 ≤ n && n ≤ 0x200A) || n == 0x2028 || n == 0x2029 || n == 0x202F || n == 0x205F
    || n == 0x3000

def trimChars (cs : List Char) : List Char :=
  ((cs.dropWhile isBlank).reverse.dropWhile isBlank).reverse

def trimmed (s : String) : String :=
  String.ofList (trimChars s.toList)

def blankSeparatedChars : List Char → List (List Char)
  | [] => []
  | [c] => if isBlank c then [] else [[c]]
  | c :: d :: cs =>
    let runs := blankSeparatedChars (d :: cs)
    if isBlank c then runs
    else if isBlank d then [c] :: runs
    else match runs with
      | run :: more => (c :: run) :: more
      | [] => [[c]]

def blankSeparated (s : String) : List String :=
  (blankSeparatedChars s.toList).map String.ofList

end GeoFilter.Text
