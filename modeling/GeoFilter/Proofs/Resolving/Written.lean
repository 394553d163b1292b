import GeoFilter.Proofs.Dialects.Literal
import GeoFilter.Proofs.Resolving
import GeoFilter.Proofs.Sparing

/-!
# Where trees are written

A span of a statement is given by the lexemes from where it starts and those behind its end.  Every geometry of a tree is
written in a span of its own, in the order of the tree: as its text, with the number of its reference system in front of
it, as the bounds of a rectangle, or as the bounds of a BBOX; and the code of a rectangle stands behind its bounds.
A number that is written for a geometry is given as a reference system of that number, which has no name: these are the
trees of a resolver that answers every number.

What is written between the geometries is not spelled out, but there is no semicolon in it.  So a text with a number in
front of it is not taken for a text without one, and with the geometries in order none has the number of another.
-/

namespace GeoFilter

open Translation (read bind_eq_ok read_eq_ok complete_eq_ok)

/-- Answers a number with a system of that number, which has no name. -/
def CrsResolver.numbering : CrsResolver := fun srid => .ok ⟨srid, ""⟩

/-- Plain trees of a dialect, with the numbers of their reference systems. -/
def Setting.numbering (dialect : Dialect) : Setting := ⟨dialect, ⟨.plain, .numbering⟩, fun _ => true⟩

/-! ### Parts in order -/

/-- Parts of a span in order, each in a span of its own.  Other lexemes may stand around them, but no semicolon. -/
inductive InOrder (written : List Lexeme → α → List Lexeme → Prop) : List Lexeme → List α → List Lexeme → Prop
  | none {input : List Lexeme} : InOrder written input [] input
  | other {l : Lexeme} {rest : List Lexeme} (hl : l.token ≠ .sign .semicolon) : InOrder written (l :: rest) [] rest
  | part {input rest : List Lexeme} {a : α} (ha : written input a rest) : InOrder written input [a] rest
  | append {input mid rest : List Lexeme} {parts parts' : List α} (h : InOrder written input parts mid)
    (h' : InOrder written mid parts' rest) : InOrder written input (parts ++ parts') rest

theorem InOrder.skip {written : List Lexeme → α → List Lexeme → Prop} {input taken rest : List Lexeme} {parts : List α}
    (h : InOrder written input parts (taken ++ rest)) (htaken : Reserve.semicolons.Absent taken) :
    InOrder written input parts rest := by
  induction taken generalizing parts with
  | nil => exact h
  | cons l taken ih =>
    obtain ⟨hl, hmore⟩ := List.forall_mem_cons.mp htaken
    have hother : l.token ≠ .sign .semicolon := by
      intro heq
      rw [heq] at hl
      exact absurd hl (by decide)
    have hnext := h.append (.other hother)
    rw [List.append_nil] at hnext
    exact ih hnext hmore

/-! ### Numbers and codes -/

/-- Numbers with their signs and commas between them. -/
inductive NumbersWritten : List Lexeme → List (Option SourceToken × SourceToken) → List Lexeme → Prop
  | last {input rest : List Lexeme} {n : Option SourceToken × SourceToken}
    (hn : (Grammar.signed input).outcome = .ok (n, rest)) : NumbersWritten input [n] rest
  | more {input mid rest : List Lexeme} {place : Place} {n : Option SourceToken × SourceToken}
    {ns : List (Option SourceToken × SourceToken)}
    (hn : (Grammar.signed input).outcome = .ok (n, ⟨.sign .comma, place⟩ :: mid)) (hmore : NumbersWritten mid ns rest) :
    NumbersWritten input (n :: ns) rest

/-- A comma and the code of a reference system, or nothing. -/
inductive CodeWritten : List Lexeme → Option Crs → List Lexeme → Prop
  | none {rest : List Lexeme} : CodeWritten rest none rest
  | some {place : Place} {code : Lexeme} {rest : List Lexeme} {srid : Int32} (hcode : Grammar.isCode code.token = true)
    (hread : Crs.parseCode? code.token.text = some srid) :
    CodeWritten (⟨.sign .comma, place⟩ :: code :: rest) (some ⟨srid, ""⟩) rest

/-! ### Trees -/

/-- A geometry with the number of its reference system, if one is written: alone, behind the keyword, an equals sign,
the number with its sign and a semicolon, or as the bounds of a rectangle with a code behind them. -/
inductive GeometryLiteral.WrittenFrom (dialect : Dialect) : List Lexeme → GeometryLiteral → List Lexeme → Prop
  | alone {text rest : List Lexeme} {g : Geometry} {levels : Nat}
    (htext : Translation.geometryLiteral (.numbering dialect) levels text = .ok (g, rest)) :
    WrittenFrom dialect text ⟨g, none⟩ rest
  | numbered {keyword : Lexeme} {equal semicolon : Place} {number text rest : List Lexeme}
    {n : Option SourceToken × SourceToken} {srid : Int32} {g : Geometry} {levels : Nat}
    (hkeyword : keyword.token.keyword? = some .SRID)
    (hn : (Grammar.signed number).outcome = .ok (n, ⟨.sign .semicolon, semicolon⟩ :: text))
    (hread : Decimal.readInt32? (Grammar.withSign n).text = some srid)
    (htext : Translation.geometryLiteral (.numbering dialect) levels text = .ok (g, rest)) :
    WrittenFrom dialect (keyword :: ⟨.sign .equal, equal⟩ :: number) ⟨g, some ⟨srid, ""⟩⟩ rest
  | envelope {keyword : Lexeme} {opening closing : Place} {bounds behind rest : List Lexeme}
    {west east north south : Option SourceToken × SourceToken} {x x' y y' : Float} {crs : Option Crs}
    (hkeyword : keyword.token.keyword? = some .ENVELOPE)
    (hbounds : NumbersWritten bounds [west, east, north, south] behind)
    (hcode : CodeWritten behind crs (⟨.sign .rightParen, closing⟩ :: rest))
    (hwest : boundOf (Grammar.withSign west) = .ok x) (heast : boundOf (Grammar.withSign east) = .ok x')
    (hnorth : boundOf (Grammar.withSign north) = .ok y') (hsouth : boundOf (Grammar.withSign south) = .ok y) :
    WrittenFrom dialect (keyword :: ⟨.sign .leftParen, opening⟩ :: bounds) ⟨rectangle x x' y y', crs⟩ rest

def Expression.operands : Expression → List Expression
  | .function _ args => args
  | .arithmetic _ left right => [left, right]
  | .property _ | .literal _ => []

/-- An expression with the numbers of its reference systems as they are written. -/
inductive Expression.WrittenFrom (dialect : Dialect) : List Lexeme → Expression → List Lexeme → Prop
  | geometry {input rest : List Lexeme} {g : GeometryLiteral} (h : g.WrittenFrom dialect input rest) :
    WrittenFrom dialect input (.literal (.geometry g)) rest
  | node {input rest : List Lexeme} {x : Expression} (hx : ∀ g, x ≠ .literal (.geometry g))
    (h : InOrder (WrittenFrom dialect) input x.operands rest) : WrittenFrom dialect input x rest
  | group {opening closing : Place} {inner rest : List Lexeme} {x : Expression}
    (h : WrittenFrom dialect inner x (⟨.sign .rightParen, closing⟩ :: rest)) :
    WrittenFrom dialect (⟨.sign .leftParen, opening⟩ :: inner) x rest

/-- The operands of a test, which is no combination of predicates. -/
def Predicate.operands? : Predicate → Option (List Expression)
  | .comparison _ left right | .spatial _ left right | .distance _ left right _ _ => some [left, right]
  | .isNull value | .like value _ _ => some [value]
  | .between value lower upper => some [value, lower, upper]
  | .includeAll | .excludeAll | .featureIds _ => some []
  | .and _ | .or _ | .not _ => none

/-- A predicate with the numbers of its reference systems as they are written.  An operand is written once in front of
the candidates that it may equal, and stands in each of the equalities. -/
inductive Predicate.WrittenFrom (dialect : Dialect) : List Lexeme → Predicate → List Lexeme → Prop
  | test {input rest : List Lexeme} {p : Predicate} {xs : List Expression} (negated : Bool)
    (hp : p.operands? = some xs) (h : InOrder (Expression.WrittenFrom dialect) input xs rest) :
    WrittenFrom dialect input (negatedWhen .plain negated p) rest
  | among {input rest : List Lexeme} {x : Expression} {candidates : List Expression} (negated : Bool)
    (h : InOrder (Expression.WrittenFrom dialect) input (x :: candidates) rest) :
    WrittenFrom dialect input (negatedWhen .plain negated (anyOf .plain x candidates)) rest
  | box {keyword : Lexeme} {opening comma closing : Place} {first bounds behind rest : List Lexeme} {left : Expression}
    {minX minY maxX maxY : Option SourceToken × SourceToken} {x x' y y' : Number} {crs : Option Crs}
    (hkeyword : keyword.token.keyword? = some .BBOX)
    (hleft : left.WrittenFrom dialect first (⟨.sign .comma, comma⟩ :: bounds))
    (hbounds : NumbersWritten bounds [minX, minY, maxX, maxY] behind)
    (hcode : CodeWritten behind crs (⟨.sign .rightParen, closing⟩ :: rest))
    (hminX : signedValue? minX = some x) (hminY : signedValue? minY = some y) (hmaxX : signedValue? maxX = some x')
    (hmaxY : signedValue? maxY = some y') :
    WrittenFrom dialect (keyword :: ⟨.sign .leftParen, opening⟩ :: first)
      (.spatial .bbox left (.literal (.geometry ⟨rectangle x.toFloat x'.toFloat y.toFloat y'.toFloat, crs⟩))) rest
  | not {l : Lexeme} {inner rest : List Lexeme} {p : Predicate} (hl : l.token.isWord "NOT" = true)
    (h : WrittenFrom dialect inner p rest) : WrittenFrom dialect (l :: inner) p.not rest
  | group {opening : Lexeme} {sign : Sign} {closing : Place} {inner rest : List Lexeme} {p : Predicate}
    (hopening : Grammar.closingSign? dialect opening.token = some sign)
    (h : WrittenFrom dialect inner p (⟨.sign sign, closing⟩ :: rest)) : WrittenFrom dialect (opening :: inner) p rest
  | and {l : Lexeme} {input mid rest : List Lexeme} {p q : Predicate} (hl : l.token.isWord "AND" = true)
    (hp : WrittenFrom dialect input p (l :: mid)) (hq : WrittenFrom dialect mid q rest) :
    WrittenFrom dialect input (p.flatAnd q) rest
  | or {l : Lexeme} {input mid rest : List Lexeme} {p q : Predicate} (hl : l.token.isWord "OR" = true)
    (hp : WrittenFrom dialect input p (l :: mid)) (hq : WrittenFrom dialect mid q rest) :
    WrittenFrom dialect input (Predicate.flatOr [p, q]) rest

variable {u : Setting} {input rest : List Lexeme}

theorem Except.bind_eq_ok {x : Except ε α} {f : α → Except ε β} {b : β} (h : x >>= f = .ok b) :
    ∃ a, x = .ok a ∧ f a = .ok b := by
  cases x with
  | ok a => exact ⟨a, rfl, h⟩
  | error e => cases h

variable {dialect : Dialect} {levels : Nat} {literal : GeometryLiteral} {l : Lexeme}

end GeoFilter
