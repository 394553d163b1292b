import GeoFilter.Assembly.Step
import GeoFilter.Proofs.FeatureIds
import GeoFilter.Proofs.Keyword
import GeoFilter.Proofs.Parallel.Pattern

/-!
# Letter case

Lexemes that differ only in the case of the letters of words without quotes, and trees that differ only in the case of
names and of patterns without quotes.  Each name is written as it is in the lexemes of its tree.  Whatever else is made of
a word, its case makes no difference to it: whether it is a keyword, which units of distance it names, and whether it is
a pattern.
-/

namespace GeoFilter

/-! ### Texts -/

/-- Texts that differ in the case of ASCII letters at most. -/
def SameLetters (text text' : String) : Prop := Text.sameIgnoringAsciiCase text' text = true

namespace SameLetters

variable {text text' more more' : String}

theorem iff_lower : SameLetters text text' ↔ text'.toList.map Char.toLower = text.toList.map Char.toLower :=
  beq_iff_eq

theorem refl (text : String) : SameLetters text text := iff_lower.mpr rfl

theorem append (h : SameLetters text text') (hmore : SameLetters more more') :
    SameLetters (text ++ more) (text' ++ more') := by
  rw [iff_lower] at h hmore ⊢
  rw [String.toList_append, String.toList_append, List.map_append, List.map_append, h, hmore]

theorem length_eq (h : SameLetters text text') : text'.length = text.length := by
  have hlength := congrArg List.length (iff_lower.mp h)
  rwa [List.length_map, List.length_map, String.length_toList, String.length_toList] at hlength

theorem intercalate {separator : String} {texts texts' : List String} (h : List.Forall₂ SameLetters texts texts') :
    SameLetters (separator.intercalate texts) (separator.intercalate texts') := by
  induction h with
  | nil => exact refl _
  | cons hfirst hrest ih =>
    cases hrest with
    | nil =>
      rw [String.intercalate_singleton, String.intercalate_singleton]
      exact hfirst
    | cons =>
      rw [String.intercalate_cons_cons, String.intercalate_cons_cons]
      exact (hfirst.append (refl _)).append ih

end SameLetters

namespace Text

theorem isBlank_toLower (c : Char) : isBlank c.toLower = isBlank c := eq_of_capitals (by decide) c

theorem blankSeparatedChars_lower (cs : List Char) :
    blankSeparatedChars (cs.map Char.toLower) = (blankSeparatedChars cs).map (List.map Char.toLower) := by
  induction cs with
  | nil => rfl
  | cons c cs ih =>
    cases cs with
    | nil => by_cases hblank : isBlank c = true <;> simp [blankSeparatedChars, isBlank_toLower, hblank]
    | cons d cs =>
      rw [List.map_cons] at ih
      rw [List.map_cons, List.map_cons, blankSeparatedChars, blankSeparatedChars, isBlank_toLower, isBlank_toLower, ih]
      split
      · rfl
      · split
        · rfl
        · cases blankSeparatedChars (d :: cs) <;> rfl

theorem intercalate_lower (runs : List (List Char)) :
    [' '].intercalate (runs.map (List.map Char.toLower)) = ([' '].intercalate runs).map Char.toLower := by
  induction runs with
  | nil => rfl
  | cons run runs ih =>
    cases runs with
    | nil => simp
    | cons next more =>
      rw [List.map_cons, List.map_cons, List.intercalate_cons_cons, ← List.map_cons, ih,
        List.intercalate_cons_cons]
      simp

end Text

/-- The case of the letters of a text makes no difference to the units that it names. -/
theorem SameLetters.units {text text' : String} (h : SameLetters text text') :
    DistanceUnits.ofText? text' = DistanceUnits.ofText? text := by
  have hlower : ∀ s : String, Text.lowerCased (" ".intercalate (Text.blankSeparated s)) =
      String.ofList (([' '].intercalate (Text.blankSeparatedChars (s.toList.map Char.toLower))).map Text.latinLower) := by
    intro s
    have hchars : (" ".intercalate (Text.blankSeparated s)).toList =
        [' '].intercalate (Text.blankSeparatedChars s.toList) := by
      rw [String.toList_intercalate, Text.blankSeparated, List.map_map]
      simp [Function.comp_def]
    rw [Text.lowerCased, hchars, Text.blankSeparatedChars_lower, Text.intercalate_lower, List.map_map]
    refine congrArg String.ofList (List.map_congr_left fun c _ => ?_)
    exact (Text.latinLower_toLower c).symm
  rw [DistanceUnits.ofText?, DistanceUnits.ofText?, hlower, hlower, iff_lower.mp h]

theorem SameLetters.isDe9im {text text' : String} (h : SameLetters text text') :
    Assembly.isDe9im text' = Assembly.isDe9im text := by
  have hlower : ∀ s : String, Assembly.isDe9im s = ((s.toList.map Char.toLower).length == 9 &&
      (s.toList.map Char.toLower).all fun c => ['T', 'F', '*', '0', '1', '2'].contains c.toUpper) := by
    intro s
    have hupper : ∀ c : Char, ((fun c : Char => ['T', 'F', '*', '0', '1', '2'].contains c.toUpper) ∘ Char.toLower) c =
        ['T', 'F', '*', '0', '1', '2'].contains c.toUpper := fun c => by
      rw [Function.comp_apply, Text.toUpper_toLower]
    rw [List.length_map, List.all_map, funext hupper]
    rfl
  rw [hlower, hlower, iff_lower.mp h]

/-! ### Lexemes -/

/-- Tokens at the same place that differ in the case of letters at most. -/
structure SourceToken.Recased (token token' : SourceToken) : Prop where
  place : token'.place = token.place
  text : SameLetters token.text token'.text

/-- Lexemes at the same place that differ at most in the case of the letters of a word without quotes. -/
structure Lexeme.Recased (l l' : Lexeme) : Prop where
  place : l'.place = l.place
  token : l.token.Alike l'.token

theorem Token.alike_iff {t t' : Token} : t.Alike t' ↔
    t' = t ∨ t = .word t.text none ∧ t' = .word t'.text none ∧ SameLetters t.text t'.text := by
  constructor
  · intro h
    cases h with
    | refl => exact .inl rfl
    | word same => exact .inr ⟨rfl, rfl, same⟩
  · rintro (rfl | ⟨ht, ht', same⟩)
    · exact .refl _
    · rw [ht, ht']
      exact .word same

instance (text text' : String) : Decidable (SameLetters text text') := inferInstanceAs (Decidable (_ = true))

instance (t t' : Token) : Decidable (t.Alike t') := decidable_of_iff' _ Token.alike_iff

instance (l l' : Lexeme) : Decidable (l.Recased l') :=
  decidable_of_iff (l'.place = l.place ∧ l.token.Alike l'.token) ⟨fun h => ⟨h.1, h.2⟩, fun h => ⟨h.place, h.token⟩⟩

theorem Token.Alike.sameLetters {t t' : Token} (h : t.Alike t') :
    SameLetters t.text t'.text ∧ SameLetters t.spelling t'.spelling := by
  cases h with
  | refl => exact ⟨.refl _, .refl _⟩
  | word same => exact ⟨same, same⟩

theorem Lexeme.Recased.source {l l' : Lexeme} (h : l.Recased l') : l.source.Recased l'.source :=
  ⟨h.place, h.token.sameLetters.1⟩

theorem Token.Alike.eq_sign {t t' : Token} (h : t.Alike t') (sign : Sign) : t' = .sign sign ↔ t = .sign sign := by
  cases h with
  | refl => rfl
  | word => exact iff_of_false nofun nofun

/-- What some lexemes of a statement spell up to a comma or a parenthesis, with the quotes of those that have any. -/
def SpelledIn (lexemes : List Lexeme) (text : String) : Prop :=
  ∃ ls, ls <:+ lexemes ∧ spelled ((tokensOf ls).takeWhile Token.isPatternPiece) = text

/-- What lexemes spell on both sides, none of them a comma or a closing parenthesis. -/
inductive SpelledBeside : LexemePairs → String → String → LexemePairs → Prop
  | nothing (t : LexemePairs) : SpelledBeside t "" "" t
  | piece {l l' : Lexeme} {s t : LexemePairs} {text text' : String} (hl : l.token.isPatternPiece = true)
    (h : SpelledBeside s text text' t) :
    SpelledBeside ((l, l') :: s) (l.token.spelling ++ text) (l'.token.spelling ++ text') t

theorem barePattern_recased {ls ls' : List Lexeme} (h : List.Forall₂ Lexeme.Recased ls ls') (behind? : Option Place) :
    (∃ token token', token.Recased token' ∧ Grammar.barePattern behind? ls = .error (.inPattern token) ∧
      Grammar.barePattern behind? ls' = .error (.inPattern token')) ∨
    ∃ text text' rest rest', Grammar.barePattern behind? ls = .ok (text, rest) ∧
      Grammar.barePattern behind? ls' = .ok (text', rest') ∧ SameLetters text text' ∧
      SpelledBeside (ls.zip ls') text text' (rest.zip rest') ∧ List.Forall₂ Lexeme.Recased rest rest' ∧
      rest.zip rest' <:+ ls.zip ls' := by
  induction h generalizing behind? with
  | nil => exact .inr ⟨_, _, _, _, rfl, rfl, .refl _, .nothing _, .nil, List.suffix_rfl⟩
  | @cons l l' ls ls' hl hls ih =>
    have hsign : (l'.token = .sign .comma ∨ l'.token = .sign .rightParen) ↔
        (l.token = .sign .comma ∨ l.token = .sign .rightParen) := by rw [hl.token.eq_sign, hl.token.eq_sign]
    have hlength : l'.token.text.length = l.token.text.length := hl.token.sameLetters.1.length_eq
    rw [Grammar.barePattern, Grammar.barePattern, hl.place, hlength]
    by_cases hstop : l.token = .sign .comma ∨ l.token = .sign .rightParen
    · rw [if_pos hstop, if_pos (hsign.mpr hstop)]
      exact .inr ⟨_, _, _, _, rfl, rfl, .refl _, .nothing _, .cons hl hls, List.suffix_rfl⟩
    · rw [if_neg hstop, if_neg (mt hsign.mp hstop)]
      by_cases happart : behind?.any (· ≠ l.place) = true
      · rw [if_pos happart, if_pos happart]
        exact .inl ⟨_, _, hl.source, rfl, rfl⟩
      · rw [if_neg happart, if_neg happart]
        rcases ih (some ⟨l.place.line, l.place.column + l.token.text.length⟩) with
          ⟨token, token', htoken, hleft, hright⟩ |
            ⟨text, text', rest, rest', hleft, hright, htext, hspelled, hrest, hsuffix⟩
        · rw [hleft, hright]
          exact .inl ⟨token, token', htoken, rfl, rfl⟩
        · rw [hleft, hright]
          exact .inr ⟨_, _, _, _, rfl, rfl, hl.token.sameLetters.2.append htext,
            .piece (decide_eq_true hstop) hspelled, hrest, hsuffix.trans (List.suffix_cons _ _)⟩

/-! ### Names -/

/-- Names that are made in the same way of lexemes beside each other: of one, or of some with colons between them. -/
inductive NamedBeside (pairs : LexemePairs) : String → String → Prop
  | lexeme {l l' : Lexeme} (h : (l, l') ∈ pairs) : NamedBeside pairs l.token.text l'.token.text
  | joined {l l' : Lexeme} {name name' : String} (hname : NamedBeside pairs name name') (h : (l, l') ∈ pairs) :
    NamedBeside pairs (name ++ ":" ++ l.token.text) (name' ++ ":" ++ l'.token.text)

/-- Names that are kept as they are written, and that differ in the case of letters at most. -/
structure SameName (pairs : LexemePairs) (name name' : String) : Prop where
  letters : SameLetters name name'
  written : NamedBeside pairs name name'

/-! ### Trees -/

/-- Expressions that differ at most in the case of the letters of the names in them. -/
inductive Expression.Recased (pairs : LexemePairs) : Expression → Expression → Prop
  | property {names names' : List String} (h : List.Forall₂ (SameName pairs) names names') :
      Recased pairs (.property ⟨names⟩) (.property ⟨names'⟩)
  | literal (value : Literal) : Recased pairs (.literal value) (.literal value)
  | function {name name' : String} {args args' : List Expression} (hname : SameName pairs name name')
      (hargs : List.Forall₂ (Recased pairs) args args') : Recased pairs (.function name args) (.function name' args')
  | arithmetic (op : ArithmeticOp) {x x' y y' : Expression} (hx : Recased pairs x x') (hy : Recased pairs y y') :
      Recased pairs (.arithmetic op x y) (.arithmetic op x' y')

/-- Predicates that differ at most in the case of the letters of the names in them and of patterns that are
`unquoted`.  There are no identifiers of features in them. -/
inductive Predicate.Recased (pairs : LexemePairs) (unquoted : String → Prop) : Predicate → Predicate → Prop
  | includeAll : Recased pairs unquoted .includeAll .includeAll
  | excludeAll : Recased pairs unquoted .excludeAll .excludeAll
  | and {ps ps' : List Predicate} (h : List.Forall₂ (Recased pairs unquoted) ps ps') :
      Recased pairs unquoted (.and ps) (.and ps')
  | or {ps ps' : List Predicate} (h : List.Forall₂ (Recased pairs unquoted) ps ps') :
      Recased pairs unquoted (.or ps) (.or ps')
  | not {p p' : Predicate} (h : Recased pairs unquoted p p') : Recased pairs unquoted (.not p) (.not p')
  | comparison (op : ComparisonOp) {x x' y y' : Expression} (hx : x.Recased pairs x') (hy : y.Recased pairs y') :
      Recased pairs unquoted (.comparison op x y) (.comparison op x' y')
  | spatial (op : SpatialOp) {x x' y y' : Expression} (hx : x.Recased pairs x') (hy : y.Recased pairs y') :
      Recased pairs unquoted (.spatial op x y) (.spatial op x' y')
  | distance (op : DistanceOp) (d : Float) (units : DistanceUnits) {x x' y y' : Expression} (hx : x.Recased pairs x')
      (hy : y.Recased pairs y') : Recased pairs unquoted (.distance op x y d units) (.distance op x' y' d units)
  | isNull {x x' : Expression} (hx : x.Recased pairs x') : Recased pairs unquoted (.isNull x) (.isNull x')
  | like (pattern : String) (ignoringCase : Bool) {x x' : Expression} (hx : x.Recased pairs x') :
      Recased pairs unquoted (.like x pattern ignoringCase) (.like x' pattern ignoringCase)
  | between {x x' y y' z z' : Expression} (hx : x.Recased pairs x') (hy : y.Recased pairs y')
      (hz : z.Recased pairs z') : Recased pairs unquoted (.between x y z) (.between x' y' z')
  | relate {x x' y y' : Expression} (hx : x.Recased pairs x') (hy : y.Recased pairs y') :
      Recased pairs unquoted (.comparison .eq (.function "relate" [x, y]) (.literal (.boolean true)))
        (.comparison .eq (.function "relate" [x', y']) (.literal (.boolean true)))
  | relatePattern {x x' y y' : Expression} {text text' : String} (hx : x.Recased pairs x') (hy : y.Recased pairs y')
      (htext : text' = text ∨ unquoted text ∧ SameLetters text text') :
      Recased pairs unquoted
        (.comparison .eq (.function "relatePattern" [x, y, .literal (.string text)]) (.literal (.boolean true)))
        (.comparison .eq (.function "relatePattern" [x', y', .literal (.string text')]) (.literal (.boolean true)))

namespace Predicate.Recased

variable {pairs : LexemePairs} {unquoted : String → Prop} {p p' q q' : Predicate}

theorem conjuncts (h : Recased pairs unquoted p p') :
    List.Forall₂ (Recased pairs unquoted) p.conjuncts p'.conjuncts := by
  have hself := h
  cases h with
  | and hs => exact hs
  | _ => exact .cons hself .nil

theorem disjuncts (h : Recased pairs unquoted p p') :
    List.Forall₂ (Recased pairs unquoted) p.disjuncts p'.disjuncts := by
  have hself := h
  cases h with
  | or hs => exact hs
  | _ => exact .cons hself .nil

theorem flatAnd (hp : Recased pairs unquoted p p') (hq : Recased pairs unquoted q q') :
    Recased pairs unquoted (p.flatAnd q) (p'.flatAnd q') :=
  .and (List.rel_append hp.conjuncts hq.conjuncts)

theorem flatOr {ps ps' : List Predicate} (h : List.Forall₂ (Recased pairs unquoted) ps ps') :
    Recased pairs unquoted (flatOr ps) (flatOr ps') := by
  have hall : List.Forall₂ (Recased pairs unquoted) (ps.flatMap Predicate.disjuncts)
      (ps'.flatMap Predicate.disjuncts) := by
    induction h with
    | nil => exact .nil
    | cons hp _ ih =>
      rw [List.flatMap_cons, List.flatMap_cons]
      exact List.rel_append hp.disjuncts ih
  unfold Predicate.flatOr
  generalize ps.flatMap Predicate.disjuncts = qs, ps'.flatMap Predicate.disjuncts = qs' at hall ⊢
  cases hall with
  | nil => exact .or .nil
  | cons hp hps =>
    cases hps with
    | nil => exact hp
    | cons hq hqs => exact .or (.cons hp (.cons hq hqs))

theorem negatedWhen (negated : Bool) (h : Recased pairs unquoted p p') :
    Recased pairs unquoted (negatedWhen .plain negated p) (negatedWhen .plain negated p') := by
  cases negated with
  | true => exact .not h
  | false => exact h

theorem anyOf {x x' : Expression} {ys ys' : List Expression} (hx : x.Recased pairs x')
    (hys : List.Forall₂ (Expression.Recased pairs) ys ys') :
    Recased pairs unquoted (anyOf .plain x ys) (anyOf .plain x' ys') :=
  flatOr (List.forall₂_map_left_iff.mpr (List.forall₂_map_right_iff.mpr (hys.imp fun _ _ hy => .comparison .eq hx hy)))

end Predicate.Recased

end GeoFilter
