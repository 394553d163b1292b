import GeoFilter.Grammar.Expression

/-!
# Filters in statements

Predicates and their combinations.  NOT binds tightest, then AND, then OR; what follows NOT and what
stands in parentheses is one level deeper.
-/

namespace GeoFilter.Grammar

open Phrase

/-- The first operand of a predicate: a property in the base dialect, any expression in the extended
one. -/
def operand (dialect : Dialect) (levels : Nat) : Phrase Unit :=
  match dialect with
  | .cql => propertyName
  | .ecql => expression dialect levels

/-- The second operand of a spatial predicate: a geometry literal in the base dialect, any expression in
the extended one. -/
def geometryOperand (dialect : Dialect) (levels : Nat) : Phrase Unit :=
  match dialect with
  | .ecql => expression dialect levels
  | .cql => do
    match (← peek).bind Token.keyword? with
    | some .SRID => sridLiteral dialect levels
    | some .ENVELOPE => envelope dialect
    | some (.shape _) => geometryLiteral levels
    | _ => unexpected "a geometry literal"

def isFeatureId : Token → Bool
  | .quoted _ => true
  | .number .. => true
  | .word .. => true
  | _ => false

def featureId : Phrase Unit := do
  let id ← expectIf isFeatureId "a feature id"
  reduce .featureId [id]

def featureIds : Phrase Unit := do
  let keyword ← next "ID"
  parenthesized (commaSeparated featureId)
  reduce .featureIdPredicate [keyword]

def spatial (dialect : Dialect) (levels : Nat) (op : SpatialOp) : Phrase Unit := do
  let keyword ← next "a spatial operator"
  require .leftParen
  operand dialect levels
  require .comma
  geometryOperand dialect levels
  require .rightParen
  reduce (.spatial op) [keyword]

def commaBound : Phrase Unit := do
  require .comma
  signedLiteral

def bbox (dialect : Dialect) (levels : Nat) : Phrase Unit := do
  let keyword ← next "BBOX"
  require .leftParen
  operand dialect levels
  commaBound
  commaBound
  commaBound
  commaBound
  let code ← referenceSystem?
  require .rightParen
  reduce .bbox (keyword :: code)

def leadingWords : List Lexeme → List SourceToken × List Lexeme
  | [] => ([], [])
  | l :: ls =>
    if isAnyWord l.token then
      let (words, rest) := leadingWords ls
      (l.source :: words, rest)
    else ([], l :: ls)

def unitWords : Phrase (List SourceToken) := fun input =>
  match leadingWords input with
  | ([], _) => unexpected "distance units" input
  | (words, rest) => ⟨[], .ok (words, rest)⟩

def distance (dialect : Dialect) (levels : Nat) (op : DistanceOp) : Phrase Unit := do
  let keyword ← next "a distance operator"
  require .leftParen
  operand dialect levels
  require .comma
  geometryOperand dialect levels
  require .comma
  signedLiteral
  require .comma
  let units ← unitWords
  require .rightParen
  reduce (.distance op) (keyword :: units)

/-- A pattern written without quotes: the pieces up to a comma or a parenthesis, each of which has to
stand right behind the one before. -/
def barePattern (behind? : Option Place) : List Lexeme → Except SyntaxFault (String × List Lexeme)
  | [] => .ok ("", [])
  | l :: ls =>
    if l.token = .sign .comma ∨ l.token = .sign .rightParen then .ok ("", l :: ls)
    else if behind?.any (· ≠ l.place) then
      .error (.unexpected "a DE-9IM pattern without spaces" l.source)
    else
      match barePattern (some ⟨l.place.line, l.place.column + l.token.text.length⟩) ls with
      | .ok (pattern, rest) => .ok (l.token.spelling ++ pattern, rest)
      | .error fault => .error fault

def isQuotedPattern : Token → Bool
  | .quoted _ => true
  | .word _ (some _) => true
  | _ => false

/-- A pattern of the nine-intersection model, between quotes of either kind or without. -/
def de9imPattern : Phrase SourceToken := do
  match ← acceptIf isQuotedPattern with
  | some pattern => return pattern
  | none =>
    let start ← here "a DE-9IM pattern"
    fun input =>
      match barePattern none input with
      | .error fault => ⟨[], .error fault⟩
      | .ok (pattern, rest) =>
        if pattern = "" then unexpected "a DE-9IM pattern" rest
        else ⟨[], .ok (⟨pattern, start.place⟩, rest)⟩

def relate (dialect : Dialect) (levels : Nat) : Phrase Unit := do
  let keyword ← next "RELATE"
  require .leftParen
  operand dialect levels
  require .comma
  geometryOperand dialect levels
  match ← accept .comma with
  | some _ =>
    let pattern ← de9imPattern
    reduce .stringLiteral [pattern]
    reduce .de9imPattern [pattern]
    require .rightParen
    reduce .relatePattern [keyword]
  | none =>
    require .rightParen
    reduce .relate [keyword]

def listMember (dialect : Dialect) (levels : Nat) : Phrase Unit := do
  let token ← here "an expression"
  expression dialect levels
  reduce .inListMember [token]

def inList (dialect : Dialect) (levels : Nat) (production : Production) (token : SourceToken) :
    Phrase Unit := do
  parenthesized (commaSeparated (listMember dialect levels))
  reduce production [token]

def isQuotedText : Token → Bool
  | .quoted _ => true
  | _ => false

def like (production : Production) (token : SourceToken) : Phrase Unit := do
  let pattern ← expectIf isQuotedText "a quoted pattern"
  reduce .stringLiteral [pattern]
  reduce production [token]

def between (dialect : Dialect) (levels : Nat) (production : Production) (token : SourceToken) :
    Phrase Unit := do
  expression dialect levels
  let _ ← expectWord "AND"
  expression dialect levels
  reduce production [token]

def isNull (token : SourceToken) : Phrase Unit := do
  let not? ← acceptWord "NOT"
  let _ ← expectWord "NULL"
  reduce (if not?.isSome then .isNotNull else .isNull) [token]

def signOperator? : Sign → Option ComparisonOp
  | .equal => some .eq
  | .notEqual => some .notEq
  | .less => some .lt
  | .lessEqual => some .ltEq
  | .greater => some .gt
  | .greaterEqual => some .gtEq
  | _ => none

/-- The operator of comparison that a token is; words stand for operators in the extended dialect. -/
def comparisonOperator? (dialect : Dialect) (token : Token) : Option ComparisonOp :=
  match token with
  | .sign s => signOperator? s
  | token =>
    match dialect, token.keyword? with
    | .ecql, some (.comparison op) => some op
    | _, _ => none

def negatedTest (dialect : Dialect) (levels : Nat) (token : SourceToken) : Phrase Unit := do
  let expected := "IN, LIKE, ILIKE or BETWEEN"
  match (← peek).bind Token.keyword? with
  | some .IN =>
    let _ ← next expected
    inList dialect levels .notInPredicate token
  | some .LIKE =>
    let _ ← next expected
    like .notLike token
  | some .ILIKE =>
    let _ ← next expected
    like .notILike token
  | some .BETWEEN =>
    let _ ← next expected
    between dialect levels .notBetween token
  | _ => unexpected expected

def keywordTest (dialect : Dialect) (levels : Nat) (keyword? : Option Keyword) : Phrase Unit := do
  let expected := "a comparison operator"
  match keyword? with
  | some .NOT => negatedTest dialect levels (← next expected)
  | some .IN => inList dialect levels .inPredicate (← next expected)
  | some .LIKE => like .like (← next expected)
  | some .ILIKE => like .ilike (← next expected)
  | some .BETWEEN => between dialect levels .between (← next expected)
  | some .IS => isNull (← next expected)
  | _ => unexpected expected

def valueTest (dialect : Dialect) (levels : Nat) : Phrase Unit := do
  operand dialect levels
  match ← peek with
  | none => unexpected "a comparison operator"
  | some token =>
    match comparisonOperator? dialect token with
    | some op =>
      let operator ← next "a comparison operator"
      expression dialect levels
      reduce (.comparison op) [operator]
    | none => keywordTest dialect levels token.keyword?

/-- A predicate that starts with the given keyword, if a parenthesis follows where one is needed, or
with an operand. -/
def simplePredicate (dialect : Dialect) (levels : Nat) (keyword? : Option Keyword) (called : Bool) :
    Phrase Unit := do
  match keyword?, called with
  | some .INCLUDE, _ => reduce .includeAll [← next "INCLUDE"]
  | some .EXCLUDE, _ => reduce .excludeAll [← next "EXCLUDE"]
  | some (.relation op), true => spatial dialect levels op
  | some .ID, true => featureIds
  | some .IN, true =>
    match dialect with
    | .ecql => featureIds
    | .cql => valueTest dialect levels
  | some .BBOX, true => bbox dialect levels
  | some .DWITHIN, true => distance dialect levels .dwithin
  | some .BEYOND, true => distance dialect levels .beyond
  | some .RELATE, true => relate dialect levels
  | _, _ => valueTest dialect levels

/-- The sign that closes a group of predicates which the given sign opens.  Brackets open one in the
extended dialect. -/
def closingSign? : Dialect → Token → Option Sign
  | _, .sign .leftParen => some .rightParen
  | .ecql, .sign .leftBracket => some .rightBracket
  | _, _ => none

/-- A group of predicates, or a single one.  A parenthesis at this place always opens a group. -/
def primary (dialect : Dialect) (levels : Nat) (group? : Option (Phrase Unit)) : Phrase Unit := do
  match ← peek with
  | none => unexpected "a predicate"
  | some token =>
    match closingSign? dialect token with
    | some closing =>
      let opener ← next "a predicate"
      nested group? opener
      require closing
    | none => simplePredicate dialect levels token.keyword? (← parenFollows)

/-- Phrases with a word between them, each completed as the given production with the one before. -/
def joined (word : String) (production : Production) (phrase : Phrase Unit) : Phrase Unit := do
  phrase
  repeatAfter (acceptWord word) fun token => do
    phrase
    reduce production [token]

def disjunctionOf (negation : Phrase Unit) : Phrase Unit :=
  joined "OR" .or (joined "AND" .and negation)

/-- A predicate with any number of NOT before it.  The given phrase is a negation one level deeper. -/
def negationWith (dialect : Dialect) (levels : Nat) (inner? : Option (Phrase Unit)) :
    Phrase Unit := do
  match ← acceptWord "NOT" with
  | some token =>
    nested inner? token
    reduce .not [token]
  | none => primary dialect levels (inner?.map disjunctionOf)

def negation (dialect : Dialect) : Nat → Phrase Unit
  | 0 => negationWith dialect 0 none
  | levels + 1 => negationWith dialect (levels + 1) (some (negation dialect levels))

def filter (dialect : Dialect) (levels : Nat) : Phrase Unit :=
  disjunctionOf (negation dialect levels)

end GeoFilter.Grammar
