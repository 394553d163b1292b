import GeoFilter.Proofs.Layout
import GeoFilter.Proofs.Nesting.Statement
import GeoFilter.Proofs.Yield.Statement

/-!
# Lists of candidates

An attribute that has to equal one of some candidates is written in two ways: with the equalities one by one and OR
between them, or with IN and a list.  What is written differently is read differently: the equalities are combined two
at a time, while the whole list makes one disjunction.
-/

namespace GeoFilter

open Translation (read bind_of_ok bind_eq_ok nextPredicate repeatAfter)

/-! ### How candidates are written -/

/-- The name of an attribute as it is written. -/
structure AttributeName where
  text : String
  quote : Option Char
  more : List NamePart

namespace AttributeName

def word (name : AttributeName) : Token := .word name.text name.quote

def tokens (name : AttributeName) : List Token := name.word :: name.more.flatMap NamePart.tokens

def path (name : AttributeName) : PropertyPath := ⟨NamePart.segments name.text name.more⟩

end AttributeName

/-- An expression that a compiler makes of a text. -/
structure Compiler.WrittenExpression (compiler : Compiler) where
  text : String
  lexemes : List Lexeme
  value : Expression
  scanned : scan text = .ok lexemes
  compiled : (compiler.compileExpression text).result = .ok value

def Compiler.WrittenExpression.tokens {compiler : Compiler} (x : compiler.WrittenExpression) : List Token :=
  tokensOf x.lexemes

/-- The words that candidates are written with, in letters of any case. -/
structure CandidateWords where
  or : String := "OR"
  among : String := "IN"
  not : String := "NOT"
  isOr : (Token.word or none).isWord "OR" = true
  isIn : Keyword.ofText? among = some .IN
  isNot : Keyword.ofText? not = some .NOT

namespace AttributeName

variable {compiler : Compiler} (name : AttributeName) (words : CandidateWords)
  (candidates : Row compiler.WrittenExpression)

/-- The tokens of the equality of an attribute with a candidate. -/
def equals (candidate : compiler.WrittenExpression) : List Token := name.tokens ++ .sign .equal :: candidate.tokens

/-- The tokens of the equalities of an attribute with some candidates, with OR between them. -/
def equalsAny : List Token := candidates.joinedTokens (.word words.or none) name.equals

/-- The tokens of a name, IN and some candidates. -/
def isIn : List Token := name.tokens ++ .word words.among none :: candidates.tokens (·.tokens)

/-- The tokens of a name, NOT IN and some candidates. -/
def isNotIn : List Token :=
  name.tokens ++ .word words.not none :: .word words.among none :: candidates.tokens (·.tokens)

end AttributeName

/-! ### Expressions wherever they stand -/

def steadyPairing (dialect : Dialect) (kit : Toolkit) : Pairing :=
  { layoutPairing dialect kit with
    strays := fun _ => False
    halts_of_strays := fun _ _ h => h.elim }

theorem layoutTexts_of_steady {dialect : Dialect} {kit : Toolkit} {text text' : String}
    (h : (steadyPairing dialect kit).Texts text text') : (layoutPairing dialect kit).Texts text text' := by
  induction h with
  | taken h => exact .taken h
  | joined _ h ih => exact .joined ih h

/-- Where no pattern is read, the expressions of the same tokens are the same, and so is how much of them is read. -/
def steadyExpressions (dialect : Dialect) (kit : Toolkit) : ExpressionPairing :=
  { layoutExpressions dialect kit with
    toPairing := steadyPairing dialect kit
    located := by
      intro g srid token token'
      show g.WellFormed → SourceToken.SameText token token' → (steadyPairing dialect kit).Values Eq
        (qualified kit.resolver g srid token) (qualified kit.resolver g srid token')
      intro _ _
      unfold qualified
      cases kit.resolver srid with
      | ok crs => exact .value rfl
      | error e => exact .stop (.inr ⟨_, rfl, .inr (.finding rfl)⟩)
    property := fun levels hne hnames =>
      (layoutExpressions dialect kit).property levels hne (hnames.imp fun _ _ => layoutTexts_of_steady)
    function := fun hname => (layoutExpressions dialect kit).function (layoutTexts_of_steady hname) }

/-- What may stand behind an operand: nothing, or one of the tokens at which it ends. -/
def ClosesOperand (r : List Token) : Prop := ∀ token ∈ r.head?, token.endsOperand = true

/-- What may stand behind one of several disjuncts: nothing, or OR. -/
def ClosesDisjunct (r : List Token) : Prop := ∀ token ∈ r.head?, token.isWord "OR" = true

theorem Token.endsOperand_of_or {token : Token} (h : token.isWord "OR" = true) : token.endsOperand = true :=
  Token.endsOperand_of_isWord (List.mem_pair.mpr (.inr rfl)) h

theorem ClosesDisjunct.closesOperand {r : List Token} (h : ClosesDisjunct r) : ClosesOperand r :=
  fun token htoken => Token.endsOperand_of_or (h token htoken)

theorem closesOperand_of_followed {r : List Token} (h : Followed [.comma, .rightParen] r) : ClosesOperand r := by
  intro token htoken
  obtain ⟨r', rfl⟩ := List.head?_eq_some_iff.mp htoken
  obtain ⟨sign, hsign, rfl⟩ := h token r' rfl
  rcases List.mem_pair.mp hsign with rfl | rfl <;> rfl

namespace Yields

variable {u : Setting} {levels : Nat}

/-- An expression that is all of some lexemes is read wherever its tokens stand. -/
theorem of_expression (hpermits : ∀ r, u.permits r = true) {lexemes : List Lexeme} {x : Expression}
    (hnumerals : Numerals lexemes) (h : Translation.expression u levels lexemes = .ok (x, [])) :
    Yields (Translation.expression u levels) (tokensOf lexemes) ClosesOperand (some x) := by
  obtain ⟨dialect, kit, permits⟩ := u
  obtain rfl : permits = fun _ => true := funext hpermits
  intro input r htokens hr
  obtain ⟨front, rest, rfl, hfront, hrest⟩ := List.map_eq_append_iff.mp htokens
  have hinput : (steadyPairing dialect kit).input lexemes front := ⟨hfront, hnumerals⟩
  have houtcome := parallel_expression (w := steadyExpressions dialect kit) levels lexemes front hinput
  have hread : Translation.expression (steadyExpressions dialect kit).left levels lexemes = .ok (x, []) := h
  rw [hread] at houtcome
  -- alone, the lexemes in front are read up to their end as well
  have halone : Translation.expression ⟨dialect, kit, fun _ => true⟩ levels front = .ok (x, []) := by
    generalize hsaid : Translation.expression (steadyExpressions dialect kit).right levels front = said at houtcome
    cases houtcome with
    | stray hstray => exact hstray.elim
    | value hx hend =>
      obtain rfl := hx
      obtain rfl := List.map_eq_nil_iff.mp hend.1
      exact hsaid
  have hends : Ends Token.endsOperand rest := by
    intro l hl
    apply hr
    rw [← hrest, List.head?_map, hl]
    rfl
  rw [← List.append_nil front] at halone
  exact ⟨rest, (solid_expression (Nat.le_refl levels)).frame front [] rest x (.ends ends_nil hends) halone, hrest⟩

end Yields

/-! ### Names as operands -/

/-- What stands in front of no parenthesis is tested, unless it is a predicate of one word. -/
theorem simplePredicate_uncalled {u : Setting} {levels : Nat} {keyword? : Option Keyword}
    (hinclude : keyword? ≠ some .INCLUDE) (hexclude : keyword? ≠ some .EXCLUDE) :
    Translation.simplePredicate u levels keyword? false = Translation.valueTest u levels := by
  unfold Translation.simplePredicate
  split
  case h_1 => exact absurd rfl hinclude
  case h_2 => exact absurd rfl hexclude
  all_goals first | rfl | contradiction

namespace AttributeName

/-- What a name is in front of a test: in the extended dialect TRUE and FALSE are truth values. -/
def operand (dialect : Dialect) (name : AttributeName) : Expression :=
  match dialect, name.word.truth? with
  | .ecql, some b => .literal (.boolean b)
  | _, _ => .property name.path

structure Stands (dialect : Dialect) (name : AttributeName) : Prop where
  notNegated : name.word.isWord "NOT" = false
  notWhole : name.word.keyword? ≠ some .INCLUDE ∧ name.word.keyword? ≠ some .EXCLUDE
  alone : dialect = .ecql → name.word.truth? ≠ none → name.more = []
  located : dialect = .ecql → name.word.keyword? = some .SRID → name.more ≠ []

variable {u : Setting} {levels : Nat} {name : AttributeName} {F : List Token → Prop} {p : Predicate} {ts : List Token}

theorem Stands.yields_operand (hu : u.IsPlain) (h : name.Stands u.dialect) :
    Yields (Translation.operand u levels) name.tokens EndsExpression (some (name.operand u.dialect)) := by
  have hname : Yields (Translation.propertyName u) name.tokens EndsExpression (some (.property name.path)) := by
    have hproperty := Yields.propertyName hu.permits name.text name.quote name.more
    rw [hu.factory] at hproperty
    exact hproperty.mono fun _ hr => hr.endsName
  unfold Translation.operand operand
  cases hdialect : u.dialect with
  | cql => exact hname
  | ecql =>
    refine Yields.expression_of_factor (fun _ hr => hr) ?_
    cases htruth : name.word.truth? with
    | some b =>
      have hnone : name.more = [] := h.alone hdialect (by simp [htruth])
      obtain ⟨text, quote, more⟩ := name
      subst hnone
      cases quote with
      | some => cases htruth
      | none => exact Yields.factor_truth hu ⟨text, b, htruth⟩
    | none =>
      obtain ⟨text, quote, more⟩ := name
      have hsrid : ∀ r, EndsExpression r → (Token.word text quote).keyword? = some .SRID →
          (more.flatMap NamePart.tokens ++ r).head? ≠ some (.sign .equal) := by
        intro r _ hkeyword
        obtain ⟨part, more, rfl⟩ := List.exists_cons_of_ne_nil (h.located hdialect hkeyword)
        cases part <;> simp [NamePart.tokens]
      have hproperty : Yields (Translation.factor u levels (Translation.deeper u levels)) _ EndsExpression _ :=
        Yields.factor_property hu.permits more htruth (fun _ hr => hr.endsName) hsrid
      rw [hu.factory] at hproperty
      exact hproperty

/-- A test of the value of an attribute is a predicate that AND and OR do not take apart. -/
theorem Stands.yields_negation (h : name.Stands u.dialect) (hts : ∀ r, EndsName (ts ++ r))
    (htest : Yields (Translation.valueTest u levels) (name.tokens ++ ts) F (some p)) :
    Yields (Translation.negation u levels) (name.tokens ++ ts) F (some p) := by
  have hclosing : Grammar.closingSign? u.dialect name.word = none := by
    unfold word Grammar.closingSign?
    cases u.dialect <;> rfl
  have hcalled : ∀ r, ((name.more.flatMap NamePart.tokens ++ ts ++ r).head? == some (.sign .leftParen)) = false := by
    intro r
    rw [List.append_assoc]
    exact Yields.not_called (hts r)
  refine Yields.negation_simple h.notNegated hclosing (fun r _ => hcalled r) ?_
  rw [simplePredicate_uncalled h.notWhole.1 h.notWhole.2]
  exact htest

end AttributeName

/-! ### Tests -/

section Tests

variable {compiler : Compiler}

namespace Compiler.WrittenExpression

variable (candidate : compiler.WrittenExpression)

theorem reads : Translation.expression compiler.setting maxNesting candidate.lexemes = .ok (candidate.value, []) :=
  makesExpression_iff.mp ((compileExpression_eq_ok_iff candidate.scanned).mp candidate.compiled)

theorem yields :
    Yields (Translation.expression compiler.setting maxNesting) candidate.tokens ClosesOperand (some candidate.value) :=
  .of_expression (fun _ => rfl) (numeral_of_scan candidate.scanned) candidate.reads

theorem yields_member :
    Yields (Translation.expression compiler.setting maxNesting) candidate.tokens (Followed [.comma, .rightParen])
      (some candidate.value) :=
  candidate.yields.mono fun _ => closesOperand_of_followed

theorem tokens_ne_nil : candidate.tokens ≠ [] := by
  intro hnil
  have hread := candidate.reads
  rw [List.map_eq_nil_iff.mp hnil] at hread
  exact (solid_expression (Nat.le_refl maxNesting)).eq_nil _ _ hread

end Compiler.WrittenExpression

namespace AttributeName

variable {name : AttributeName} {words : CandidateWords} {candidates : Row compiler.WrittenExpression}
  {F : List Token → Prop}

def equality (name : AttributeName) (candidate : compiler.WrittenExpression) : Predicate :=
  .comparison .eq (name.operand compiler.dialect) candidate.value

/-- The disjunction of the equalities of an attribute with some candidates. -/
def disjunction (name : AttributeName) (candidates : Row compiler.WrittenExpression) : Predicate :=
  .flatOr (candidates.toList.map name.equality)

theorem anyOf_candidates :
    anyOf .plain (name.operand compiler.dialect) (candidates.toList.map (·.value)) = name.disjunction candidates := by
  rw [anyOf, List.map_map]
  rfl

variable (hplain : compiler.toolkit.factory = .plain) (hstands : name.Stands compiler.dialect)

include hplain hstands

theorem yields_equals (candidate : compiler.WrittenExpression) :
    Yields (Translation.negation compiler.setting maxNesting) (name.equals candidate) ClosesOperand
      (some (name.equality candidate)) := by
  have hu := Compiler.isPlain_setting hplain
  have htest := Yields.comparison hu.permits .eq (hstands.yields_operand hu) (fun r => .cons rfl r) candidate.yields
  rw [hu.factory] at htest
  exact hstands.yields_negation (fun r => .cons rfl _) htest

theorem yields_isIn :
    Yields (Translation.negation compiler.setting maxNesting) (name.isIn words candidates) F
      (some (name.disjunction candidates)) := by
  have hu := Compiler.isPlain_setting hplain
  have htest : Yields (Translation.valueTest compiler.setting maxNesting)
      (name.tokens ++ .word words.among none :: candidates.tokens (·.tokens)) F
      (some (anyOf compiler.setting.kit.factory (name.operand compiler.dialect) (candidates.toList.map (·.value)))) :=
    Yields.among hu.permits (fun c _ => c.yields_member) (fun c _ => c.tokens_ne_nil) (hstands.yields_operand hu)
      words.isIn fun r => .cons rfl r
  rw [hu.factory, anyOf_candidates] at htest
  exact hstands.yields_negation (fun r => .cons rfl _) htest

theorem yields_isNotIn :
    Yields (Translation.negation compiler.setting maxNesting) (name.isNotIn words candidates) F
      (some (.not (name.disjunction candidates))) := by
  have hu := Compiler.isPlain_setting hplain
  have htest : Yields (Translation.valueTest compiler.setting maxNesting)
      (name.tokens ++ .word words.not none :: .word words.among none :: candidates.tokens (·.tokens)) F
      (some (compiler.setting.kit.factory.not
        (anyOf compiler.setting.kit.factory (name.operand compiler.dialect) (candidates.toList.map (·.value))))) :=
    Yields.notAmong hu.permits (fun c _ => c.yields_member) (fun c _ => c.tokens_ne_nil) (hstands.yields_operand hu)
      words.isNot words.isIn fun r => .cons rfl r
  rw [hu.factory, anyOf_candidates] at htest
  exact hstands.yields_negation (fun r => .cons rfl _) htest

end AttributeName

end Tests

end GeoFilter
