import GeoFilter.Tree.Literal

/-!
# Expressions

Values computed from the attributes of a feature: attribute paths, literals, function calls and
arithmetic.
-/

namespace GeoFilter

/-- The names that lead to an attribute, from the outermost on.  A namespace stays inside its name. -/
structure PropertyPath where
  segments : List String
  deriving DecidableEq, Repr

namespace PropertyPath

def splitAtPoints : List Char → List (List Char)
  | [] => [[]]
  | c :: cs =>
    if c = '.' then [] :: splitAtPoints cs
    else
      match splitAtPoints cs with
      | part :: parts => (c :: part) :: parts
      | [] => [[c]]

def ofText (path : String) : PropertyPath :=
  ⟨(splitAtPoints path.toList).map String.ofList⟩

def toText (path : PropertyPath) : String :=
  ".".intercalate path.segments

end PropertyPath

/-- The operators of arithmetic. -/
inductive ArithmeticOp where
  | add
  | sub
  | mul
  | div
  deriving DecidableEq, Repr

namespace ArithmeticOp

def symbol : ArithmeticOp → String
  | add => "+"
  | sub => "-"
  | mul => "*"
  | div => "/"

def label : ArithmeticOp → String
  | add => "Add"
  | sub => "Sub"
  | mul => "Mul"
  | div => "Div"

end ArithmeticOp

/-- An expression. -/
inductive Expression where
  | property (path : PropertyPath)
  | literal (value : Literal)
  | function (name : String) (args : List Expression)
  | arithmetic (op : ArithmeticOp) (left right : Expression)

namespace Expression

mutual

def same : Expression → Expression → Bool
  | .property p, .property q => p == q
  | .literal a, .literal b => a == b
  | .function f as, .function g bs => f == g && sameList as bs
  | .arithmetic op a b, .arithmetic op' a' b' => op == op' && same a a' && same b b'
  | _, _ => false

def sameList : List Expression → List Expression → Bool
  | [], [] => true
  | a :: as, b :: bs => same a b && sameList as bs
  | _, _ => false

end

instance : BEq Expression := ⟨same⟩

mutual

/-- The text of an expression, with parentheses around all arithmetic. -/
def toText : Expression → String
  | .property path => path.toText
  | .literal value => value.toText
  | .function name args => name ++ "(" ++ ", ".intercalate (texts args) ++ ")"
  | .arithmetic op left right =>
    "(" ++ toText left ++ " " ++ op.symbol ++ " " ++ toText right ++ ")"

def texts : List Expression → List String
  | [] => []
  | e :: es => toText e :: texts es

end

end Expression

end GeoFilter
