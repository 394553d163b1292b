import GeoFilter.Proofs.Parallel.Expression
import GeoFilter.Proofs.Translation.Predicate

/-!
# Predicates side by side

Predicates are related as soon as what they are made of is: a `PredicatePairing` has a relation for each level of the
grammar of filters, and what a setting has to show is that its factory keeps to them.  Tests are related wherever they
are, and combinations of them where they are read.
-/

namespace GeoFilter

open Translation (read read_phrase_bind)
open Pairing (Same Below)

/-- The condition that two operands are related as a pattern says. -/
def matching (factory : TreeFactory) (x y : Expression) (text : String) : Predicate :=
  related factory "relatePattern" [x, y, factory.literal (.string text)]

def Pairing.ReadsTest (w : Pairing) (levels : Nat) : LexemePairs → Predicate → Predicate → LexemePairs → Prop :=
  Spanning.Reads (Translation.primary w.left levels none) (Translation.primary w.right levels none)

/-- A pairing with relations between the trees that are made on both sides, by the kind of the tree and the number of
levels left for nesting, and for combinations and patterns by the lexemes from their first one on and those behind. -/
structure PredicatePairing extends ExpressionPairing where
  test : Nat → Predicate → Predicate → Prop
  negation : Nat → LexemePairs → Predicate → Predicate → LexemePairs → Prop
  conjunction : Nat → LexemePairs → Predicate → Predicate → LexemePairs → Prop
  disjunction : Nat → LexemePairs → Predicate → Predicate → LexemePairs → Prop
  written : LexemePairs → String → String → LexemePairs → Prop
  pattern : Spanning toPairing
    (fun s token token' t => source token token' ∧ written s token.text token'.text t ∧
      Assembly.isDe9im token'.text = Assembly.isDe9im token.text)
    (read Grammar.de9imPattern) (read Grammar.de9imPattern)
  units : ∀ {words words' : List SourceToken}, List.Forall₂ source words words' →
    DistanceUnits.ofText? (" ".intercalate (words'.map SourceToken.text)) =
      DistanceUnits.ofText? (" ".intercalate (words.map SourceToken.text))
  includeAll : ∀ levels, test levels left.kit.factory.includeAll right.kit.factory.includeAll
  excludeAll : ∀ levels, test levels left.kit.factory.excludeAll right.kit.factory.excludeAll
  featureIds : ∀ {ids ids' : List String} (levels : Nat), ids ≠ [] → List.Forall₂ toPairing.Texts ids ids' →
    test levels (left.kit.factory.featureIds ids) (right.kit.factory.featureIds ids')
  comparison : ∀ {x x' y y' levels} (op : ComparisonOp), sum levels x x' → sum levels y y' →
    test levels (left.kit.factory.compare op x y) (right.kit.factory.compare op x' y')
  spatial : ∀ {op x x' y y' levels}, op ≠ SpatialOp.bbox → sum levels x x' → sum levels y y' →
    test levels (left.kit.factory.spatial op x (Translation.spatialRight left y))
      (right.kit.factory.spatial op x' (Translation.spatialRight right y'))
  bbox : ∀ {region : Polygon} {x x' g g' levels}, region.IsRectangle → GeometryLiteral.geometry g = .polygon region →
    GeometryLiteral.geometry g' = .polygon region → sum levels x x' → geometry g g' →
    test levels (left.kit.factory.spatial .bbox x (left.kit.factory.literal (.geometry g)))
      (right.kit.factory.spatial .bbox x' (right.kit.factory.literal (.geometry g')))
  distance : ∀ {x x' y y' levels} (op : DistanceOp) (d : Float) (units : DistanceUnits), sum levels x x' →
    sum levels y y' →
    test levels (left.kit.factory.distance op x y d units) (right.kit.factory.distance op x' y' d units)
  relate : ∀ {x x' y y' levels}, sum levels x x' → sum levels y y' →
    test levels (related left.kit.factory "relate" [x, y]) (related right.kit.factory "relate" [x', y'])
  isNull : ∀ {x x' levels} (negated : Bool), sum levels x x' →
    test levels (negatedWhen left.kit.factory negated (left.kit.factory.isNull x))
      (negatedWhen right.kit.factory negated (right.kit.factory.isNull x'))
  like : ∀ {x x' levels} (pattern : String) (ignoringCase negated : Bool), sum levels x x' →
    test levels (negatedWhen left.kit.factory negated (left.kit.factory.like x pattern ignoringCase))
      (negatedWhen right.kit.factory negated (right.kit.factory.like x' pattern ignoringCase))
  between : ∀ {x x' y y' z z' levels} (negated : Bool), sum levels x x' → sum levels y y' → sum levels z z' →
    test levels (negatedWhen left.kit.factory negated (left.kit.factory.between x y z))
      (negatedWhen right.kit.factory negated (right.kit.factory.between x' y' z'))
  anyOf : ∀ {x x' ys ys' levels} (negated : Bool), ys ≠ [] → sum levels x x' → List.Forall₂ (sum levels) ys ys' →
    test levels (negatedWhen left.kit.factory negated (anyOf left.kit.factory x ys))
      (negatedWhen right.kit.factory negated (anyOf right.kit.factory x' ys'))
  negation_of_test : ∀ {levels s p p' t}, toPairing.ReadsTest levels s p p' t → test levels p p' →
    negation levels s p p' t
  negation_of_pattern : ∀ {levels s x x' y y' comma inner text text' closing t},
    toPairing.ReadsTest levels s (matching left.kit.factory x y text) (matching right.kit.factory x' y' text') t →
    sum levels x x' → sum levels y y' → toPairing.Stands (comma :: inner) → comma.1.token = .sign .comma →
    written inner text text' (closing :: t) → closing.1.token = .sign .rightParen →
    negation levels s (matching left.kit.factory x y text) (matching right.kit.factory x' y' text') t
  not : ∀ {levels p p' l inner t}, l.1.token.isWord "NOT" = true →
    Below (fun n p p' => negation n inner p p' t) levels p p' →
    negation levels (l :: inner) (left.kit.factory.not p) (right.kit.factory.not p') t
  group : ∀ {levels p p' opening sign closing inner t},
    Grammar.closingSign? left.dialect opening.1.token = some sign → closing.1.token = .sign sign →
    Below (fun n p p' => disjunction n inner p p' (closing :: t)) levels p p' →
    negation levels (opening :: inner) p p' t
  conjunction_of_negation : ∀ {levels s p p' t}, negation levels s p p' t → conjunction levels s p p' t
  and : ∀ {levels s p p' l mid q q' t}, l.1.token.isWord "AND" = true → conjunction levels s p p' (l :: mid) →
    negation levels mid q q' t → conjunction levels s (left.kit.factory.and p q) (right.kit.factory.and p' q') t
  disjunction_of_conjunction : ∀ {levels s p p' t}, conjunction levels s p p' t → disjunction levels s p p' t
  or : ∀ {levels s p p' l mid q q' t}, l.1.token.isWord "OR" = true → disjunction levels s p p' (l :: mid) →
    conjunction levels mid q q' t → disjunction levels s (left.kit.factory.or p q) (right.kit.factory.or p' q') t

variable {w : PredicatePairing} {levels : Nat}

/-! ### Operands -/

theorem parallel_operand (levels : Nat) :
    Parallel w.toPairing (w.sum levels) (Translation.operand w.left levels) (Translation.operand w.right levels) := by
  unfold Translation.operand
  rw [w.dialect_eq]
  cases w.left.dialect with
  | cql => exact (parallel_propertyName levels).mono fun _ _ h => w.sum_of_product (w.product_of_factor h)
  | ecql => exact parallel_expression levels

theorem keyword_of_beside {token? token?' : Option Token} (h : Option.Rel Token.Alike token? token?') :
    token?'.bind Token.keyword? = token?.bind Token.keyword? := by
  cases h with
  | none => rfl
  | some h => exact h.keyword

theorem parallel_geometryOperand (levels : Nat) :
    Parallel w.toPairing (w.sum levels) (Translation.geometryOperand w.left levels)
      (Translation.geometryOperand w.right levels) := by
  have hsum : ∀ x x', w.factor levels x x' → w.sum levels x x' :=
    fun _ _ h => w.sum_of_product (w.product_of_factor h)
  unfold Translation.geometryOperand
  rw [w.dialect_eq]
  cases w.left.dialect with
  | ecql => exact parallel_expression levels
  | cql =>
    refine Parallel.peek.bind fun token? token?' htoken => ?_
    rw [keyword_of_beside htoken]
    split
    · exact (parallel_qualifiedGeometry levels).mono hsum
    · exact (parallel_rectangle levels).mono hsum
    · exact (parallel_plainGeometry levels).mono hsum
    · exact .unexpected _

/-! ### Lists of identifiers -/

theorem parallel_featureId {w : Pairing} :
    Parallel w w.Texts (Translation.featureId w.left) (Translation.featureId w.right) :=
  (Parallel.expectIf .isFeatureId _).bind fun _ _ hid => .complete_ok (.taken hid)

theorem parallel_featureIds (levels : Nat) :
    Parallel w.toPairing (w.test levels) (Translation.featureIds w.left) (Translation.featureIds w.right) := by
  refine (Parallel.next _).bind fun keyword keyword' _ => ?_
  refine (Parallel.parenthesized (.commaSeparated parallel_featureId)).bind ?_
  rintro ⟨id, ids⟩ ⟨id', ids'⟩ hids
  exact .complete_ok (w.featureIds levels (List.cons_ne_nil _ _) hids)

/-! ### Predicates that start with a keyword -/

theorem parallel_spatial (levels : Nat) {op : SpatialOp} (hop : op ≠ .bbox) :
    Parallel w.toPairing (w.test levels) (Translation.spatial w.left levels op)
      (Translation.spatial w.right levels op) := by
  refine (Parallel.next _).bind fun keyword keyword' _ => (Parallel.require _).bind fun _ _ _ => ?_
  refine (parallel_operand levels).bind fun x x' hx => (Parallel.require _).bind fun _ _ _ => ?_
  refine (parallel_geometryOperand levels).bind fun y y' hy => (Parallel.require _).bind fun _ _ _ => ?_
  exact .complete_ok (w.spatial hop hx hy)

theorem parallel_commaBound {w : Pairing} :
    Parallel w (Same fun v => Floating.IsNumber v.toFloat) (Translation.commaBound w.left)
      (Translation.commaBound w.right) :=
  (Parallel.require _).bind fun _ _ _ => parallel_signedLiteral

theorem geometry_of_qualifiedByCode {resolver : CrsResolver} {g : Geometry} {code? : Option SourceToken}
    {literal : GeometryLiteral} (h : qualifiedByCode resolver g code? = .ok literal) : literal.geometry = g := by
  unfold qualifiedByCode at h
  split at h
  · cases h
    rfl
  · split at h
    · unfold qualified at h
      split at h
      · cases h
        rfl
      · cases h
    · cases h

def PredicatePairing.Boxed (w : PredicatePairing) (levels : Nat) (p p' : Predicate) : Prop :=
  ∃ (region : Polygon) (x x' : Expression) (g g' : GeometryLiteral), region.IsRectangle ∧
    g.geometry = .polygon region ∧ g'.geometry = .polygon region ∧ w.sum levels x x' ∧ w.geometry g g' ∧
    p = w.left.kit.factory.spatial .bbox x (w.left.kit.factory.literal (.geometry g)) ∧
    p' = w.right.kit.factory.spatial .bbox x' (w.right.kit.factory.literal (.geometry g'))

theorem parallel_boxed (levels : Nat) :
    Parallel w.toPairing (w.Boxed levels) (Translation.bbox w.left levels) (Translation.bbox w.right levels) := by
  refine (Parallel.next _).bind fun keyword keyword' _ => (Parallel.require _).bind fun _ _ _ => ?_
  refine (parallel_operand levels).bind fun x x' hx => ?_
  refine parallel_commaBound.bind ?_
  rintro _ minX ⟨rfl, hminX⟩
  refine parallel_commaBound.bind ?_
  rintro _ minY ⟨rfl, hminY⟩
  refine parallel_commaBound.bind ?_
  rintro _ maxX ⟨rfl, hmaxX⟩
  refine parallel_commaBound.bind ?_
  rintro _ maxY ⟨rfl, hmaxY⟩
  refine parallel_referenceSystem.bind fun code code' hcode => (Parallel.require _).bind fun _ _ _ => .complete ?_
  have hrectangle := Polygon.isRectangle_between hminX hmaxX hminY hmaxY
  have hvalues := values_qualifiedByCode (.polygon hrectangle.wellFormed) hcode
  unfold boxed rectangle
  generalize hsaid : qualifiedByCode w.left.kit.resolver _ code.head? = said,
    hsaid' : qualifiedByCode w.right.kit.resolver _ code'.head? = said' at hvalues ⊢
  cases hvalues with
  | value hg =>
    exact .value ⟨_, x, x', _, _, hrectangle, geometry_of_qualifiedByCode hsaid, geometry_of_qualifiedByCode hsaid',
      hx, hg, rfl, rfl⟩
  | stray h => exact .stray h
  | stop h =>
    refine .stop ?_
    cases said' with
    | ok g => exact w.halts_of_none _ _ h
    | error f => exact h

theorem parallel_bbox (levels : Nat) :
    Parallel w.toPairing (w.test levels) (Translation.bbox w.left levels) (Translation.bbox w.right levels) := by
  refine (parallel_boxed levels).mono ?_
  rintro _ _ ⟨region, x, x', g, g', hrectangle, hg, hg', hx, hgeometry, rfl, rfl⟩
  exact w.bbox hrectangle hg hg' hx hgeometry

/-! ### Distances -/

theorem leadingWords_beside {w : Pairing} {ls ls' : List Lexeme} (hls : w.input ls ls') :
    List.Forall₂ w.source (Grammar.leadingWords ls).1 (Grammar.leadingWords ls').1 ∧
      w.input (Grammar.leadingWords ls).2 (Grammar.leadingWords ls').2 := by
  induction ls generalizing ls' with
  | nil =>
    have hnil := w.input_nil hls
    subst hnil
    exact ⟨.nil, hls⟩
  | cons l ls ih =>
    obtain ⟨l', rest', rfl, halike, hsource, hrest⟩ := w.input_cons hls
    have hword := Token.Alike.Respected.isAnyWord halike
    unfold Grammar.leadingWords
    by_cases hl : Grammar.isAnyWord l.token = true
    · rw [if_pos hl, if_pos (hword.trans hl)]
      exact ⟨.cons hsource (ih hrest).1, (ih hrest).2⟩
    · rw [if_neg hl, if_neg (by rwa [hword])]
      exact ⟨.nil, hls⟩

theorem parallel_unitWords {w : Pairing} :
    Parallel w (fun words words' => List.Forall₂ w.source words words' ∧ words ≠ []) (read Grammar.unitWords)
      (read Grammar.unitWords) := by
  intro ls ls' hls
  obtain ⟨hwords, hrest⟩ := leadingWords_beside hls
  have hunexpected : w.Outcome (fun words words' _ _ => List.Forall₂ w.source words words' ∧ words ≠ [])
      (read (Phrase.unexpected "distance units") ls) (read (Phrase.unexpected "distance units") ls') :=
    Parallel.unexpected _ _ _ hls
  unfold Translation.read Grammar.unitWords
  generalize Grammar.leadingWords ls = split, Grammar.leadingWords ls' = split' at hwords hrest
  obtain ⟨words, rest⟩ := split
  obtain ⟨words', rest'⟩ := split'
  cases hwords with
  | nil => exact hunexpected
  | cons hword hwords => exact .value ⟨.cons hword hwords, List.cons_ne_nil _ _⟩ hrest

theorem parallel_distance (levels : Nat) (op : DistanceOp) :
    Parallel w.toPairing (w.test levels) (Translation.distance w.left levels op)
      (Translation.distance w.right levels op) := by
  refine (Parallel.next _).bind fun keyword keyword' _ => (Parallel.require _).bind fun _ _ _ => ?_
  refine (parallel_operand levels).bind fun x x' hx => (Parallel.require _).bind fun _ _ _ => ?_
  refine (parallel_geometryOperand levels).bind fun y y' hy => (Parallel.require _).bind fun _ _ _ => ?_
  refine parallel_signedLiteral.bind ?_
  rintro _ d ⟨rfl, _⟩
  refine (Parallel.require _).bind fun _ _ _ => parallel_unitWords.bind fun words words' hwords => ?_
  refine (Parallel.require _).bind fun _ _ _ => .complete ?_
  obtain ⟨hwords, hne⟩ := hwords
  have hunits := w.units hwords
  cases hwords with
  | nil => exact absurd rfl hne
  | @cons word word' words words' hword hrest =>
    unfold distant
    dsimp only [List.headD_cons, List.tail_cons]
    rw [hunits]
    split
    · exact .value (w.distance op _ _ hx hy)
    · exact .stop (w.halts_finding (.units (.cons hword hrest)))

/-! ### Relations -/

/-- Tests and relations with a pattern, by the lexemes behind them. -/
inductive PredicatePairing.Tested (w : PredicatePairing) (levels : Nat) : Predicate → Predicate → LexemePairs → Prop
  | test {p p' : Predicate} (h : w.test levels p p') (t : LexemePairs) : Tested w levels p p' t
  | pattern {x x' y y' : Expression} {comma closing : Lexeme × Lexeme} {inner t : LexemePairs} {text text' : String}
    (hx : w.sum levels x x') (hy : w.sum levels y y') (hstands : w.Stands (comma :: inner))
    (hcomma : comma.1.token = .sign .comma) (hwritten : w.written inner text text' (closing :: t))
    (hclosing : closing.1.token = .sign .rightParen) :
    Tested w levels (matching w.left.kit.factory x y text) (matching w.right.kit.factory x' y' text') t

theorem values_de9imOf {w : Pairing} {pattern pattern' : SourceToken} (hsource : w.source pattern pattern')
    (hvalid : Assembly.isDe9im pattern'.text = Assembly.isDe9im pattern.text) :
    w.Values (fun _ _ => True) (de9imOf pattern) (de9imOf pattern') := by
  unfold de9imOf
  rw [hvalid]
  split
  · exact .value trivial
  · exact .stop (w.halts_finding (.pattern hsource))

theorem spanning_relate (levels : Nat) :
    Spanning w.toPairing (fun _ => w.Tested levels) (Translation.relate w.left levels)
      (Translation.relate w.right levels) := by
  refine (Parallel.next _).bind_spanning fun keyword keyword' _ => (Parallel.require _).bind_spanning fun _ _ _ => ?_
  refine (parallel_operand levels).bind_spanning fun x x' hx => (Parallel.require _).bind_spanning fun _ _ _ => ?_
  refine (parallel_geometryOperand levels).bind_spanning fun y y' hy => ?_
  refine (Spanning.acceptIf (.sign .comma)).bind fun s comma? comma?' inner haccepted => ?_
  cases haccepted with
  | none =>
    refine Spanning.mono (V := fun _ => w.Tested levels) ?_ fun _ _ _ _ h _ => h
    exact (Parallel.require _).bind_spanning fun _ _ _ => .complete_ok fun t => .test (w.relate hx hy) t
  | some hstands hcomma =>
    refine w.pattern.bind fun s' pattern pattern' behind hpattern => ?_
    obtain ⟨hsource, hwritten, hvalid⟩ := hpattern
    refine .complete_bind (U := fun _ _ => True) (.value trivial) fun _ _ _ => ?_
    refine .complete_bind (values_de9imOf hsource hvalid) fun _ _ _ => ?_
    refine (Spanning.require .rightParen).bind fun s'' _ _ t hclosing => .complete_ok ?_
    obtain ⟨l, l', rfl, hl⟩ := hclosing
    rintro _ rfl rfl rfl
    exact .pattern hx hy hstands (beq_iff_eq.mp hcomma) hwritten hl

/-! ### Tests -/

section Tests

variable {left left' : Expression} (hleft : w.sum levels left left') (production : Production) (negated : Bool)
  {token token' : SourceToken}

theorem parallel_listMember (levels : Nat) :
    Parallel w.toPairing (w.sum levels) (Translation.listMember w.left levels)
      (Translation.listMember w.right levels) :=
  (Parallel.here _).bind fun _ _ _ => (parallel_expression levels).bind fun _ _ hx => .complete_ok hx

include hleft

theorem parallel_inList :
    Parallel w.toPairing (w.test levels) (Translation.inList w.left levels production negated left token)
      (Translation.inList w.right levels production negated left' token') := by
  refine (Parallel.parenthesized (.commaSeparated (parallel_listMember levels))).bind ?_
  rintro ⟨x, xs⟩ ⟨x', xs'⟩ hxs
  exact .complete_ok (w.anyOf negated (List.cons_ne_nil _ _) hleft hxs)

theorem parallel_like (ignoringCase : Bool) :
    Parallel w.toPairing (w.test levels) (Translation.like w.left production ignoringCase negated left token)
      (Translation.like w.right production ignoringCase negated left' token') := by
  refine (Parallel.expectIf .isQuotedText _).bind fun pattern pattern' hpattern => .complete_bind ?_
  rw [hpattern.text_eq fun _ => rfl]
  exact .complete_ok (w.like pattern.text ignoringCase negated hleft)

theorem parallel_between :
    Parallel w.toPairing (w.test levels) (Translation.between w.left levels production negated left token)
      (Translation.between w.right levels production negated left' token') :=
  (parallel_expression levels).bind fun _ _ hlower => (Parallel.expectWord _).bind fun _ _ _ =>
    (parallel_expression levels).bind fun _ _ hupper => .complete_ok (w.between negated hleft hlower hupper)

theorem parallel_isNull :
    Parallel w.toPairing (w.test levels) (Translation.isNull w.left left token)
      (Translation.isNull w.right left' token') := by
  refine (Parallel.acceptWord _).bind fun not? not?' hnot => (Parallel.expectWord _).bind fun _ _ _ => ?_
  have hsome : not?'.isSome = not?.isSome := by
    cases hnot with
    | none => rfl
    | some => rfl
  rw [hsome]
  exact .complete_ok (w.isNull not?.isSome hleft)

theorem parallel_negatedTest :
    Parallel w.toPairing (w.test levels) (Translation.negatedTest w.left levels left token)
      (Translation.negatedTest w.right levels left' token') := by
  refine Parallel.peek.bind fun token? token?' htoken => ?_
  rw [keyword_of_beside htoken]
  split
  · exact (Parallel.next _).bind fun _ _ _ => parallel_inList hleft _ _
  · exact (Parallel.next _).bind fun _ _ _ => parallel_like hleft _ _ _
  · exact (Parallel.next _).bind fun _ _ _ => parallel_like hleft _ _ _
  · exact (Parallel.next _).bind fun _ _ _ => parallel_between hleft _ _
  · exact .unexpected _

theorem parallel_keywordTest (keyword? : Option Keyword) :
    Parallel w.toPairing (w.test levels) (Translation.keywordTest w.left levels left keyword?)
      (Translation.keywordTest w.right levels left' keyword?) := by
  unfold Translation.keywordTest
  dsimp only
  split
  · exact (Parallel.next _).bind fun _ _ _ => parallel_negatedTest hleft
  · exact (Parallel.next _).bind fun _ _ _ => parallel_inList hleft _ _
  · exact (Parallel.next _).bind fun _ _ _ => parallel_like hleft _ _ _
  · exact (Parallel.next _).bind fun _ _ _ => parallel_like hleft _ _ _
  · exact (Parallel.next _).bind fun _ _ _ => parallel_between hleft _ _
  · exact (Parallel.next _).bind fun _ _ _ => parallel_isNull hleft
  · exact .unexpected _

theorem parallel_testOf :
    Parallel w.toPairing (w.test levels) (Translation.testOf w.left levels left)
      (Translation.testOf w.right levels left') := by
  refine Parallel.peek.bind fun token? token?' htoken => ?_
  cases htoken with
  | none => exact .unexpected _
  | some halike =>
    dsimp only
    rw [w.dialect_eq, halike.comparisonOperator, halike.keyword]
    split
    · exact (Parallel.next _).bind fun _ _ _ => (parallel_expression levels).bind fun _ _ hy =>
        .complete_ok (w.comparison _ hleft hy)
    · exact parallel_keywordTest hleft _

end Tests

theorem parallel_valueTest (levels : Nat) :
    Parallel w.toPairing (w.test levels) (Translation.valueTest w.left levels)
      (Translation.valueTest w.right levels) :=
  (parallel_operand levels).bind fun _ _ hx => parallel_testOf hx

/-! ### Combinations -/

theorem Token.relation_ne_bbox {token : Token} {op : SpatialOp} (h : token.keyword? = some (.relation op)) :
    op ≠ .bbox := by
  have hall : ∀ entry ∈ Keyword.table, entry.2 ≠ .relation .bbox := by decide
  rintro rfl
  cases token with
  | word text quote =>
    cases quote with
    | none => exact hall _ (Keyword.mem_table_of_ofText h) rfl
    | some => cases h
  | _ => cases h

theorem spanning_simplePredicate (levels : Nat) {keyword? : Option Keyword}
    (hrelation : ∀ op, keyword? = some (.relation op) → op ≠ .bbox) (called : Bool) :
    Spanning w.toPairing (fun _ => w.Tested levels) (Translation.simplePredicate w.left levels keyword? called)
      (Translation.simplePredicate w.right levels keyword? called) := by
  have htest : ∀ {c c' : Translation Predicate}, Parallel w.toPairing (w.test levels) c c' →
      Spanning w.toPairing (fun _ => w.Tested levels) c c' := fun h => h.spanning fun _ _ _ t hp => .test hp t
  unfold Translation.simplePredicate
  split
  · exact htest ((Parallel.next _).bind fun _ _ _ => .complete_ok (w.includeAll levels))
  · exact htest ((Parallel.next _).bind fun _ _ _ => .complete_ok (w.excludeAll levels))
  · exact htest (parallel_spatial levels (hrelation _ rfl))
  · exact htest (parallel_featureIds levels)
  · rw [w.dialect_eq]
    cases w.left.dialect with
    | ecql => exact htest (parallel_featureIds levels)
    | cql => exact htest (parallel_valueTest levels)
  · exact htest (parallel_bbox levels)
  · exact htest (parallel_distance levels _)
  · exact htest (parallel_distance levels _)
  · exact spanning_relate levels
  · exact htest (parallel_valueTest levels)

theorem spanning_tested (levels : Nat) :
    Spanning w.toPairing (fun _ => w.Tested levels) (Translation.primary w.left levels none)
      (Translation.primary w.right levels none) := by
  refine Parallel.peek.bind_spanning fun token? token?' htoken => ?_
  cases htoken with
  | none => exact .unexpected _
  | @some token token' halike =>
    dsimp only
    rw [w.dialect_eq, halike.closingSign, halike.keyword]
    split
    · refine (Parallel.next _).bind_spanning fun opener opener' hopener => ?_
      have hnested : Parallel w.toPairing (Below (fun _ (_ _ : Predicate) => True) 0) _ _ :=
        Parallel.nested .none hopener.source
      exact hnested.bind_spanning fun _ _ h => h.elim
    · refine Parallel.parenFollows.bind_spanning ?_
      rintro _ called rfl
      exact spanning_simplePredicate levels (fun _ => Token.relation_ne_bbox) called

section Primary

variable {u : Setting} {l : Lexeme} {ls : List Lexeme}

theorem primary_of_opening (group? : Option (Translation Predicate)) {sign : Sign}
    (hl : Grammar.closingSign? u.dialect l.token = some sign) :
    Translation.primary u levels group? (l :: ls) = (Translation.nested group? l.source >>= fun p =>
      read (Phrase.require sign) >>= fun _ => Pure.pure p) ls := by
  have hpeek : read Phrase.peek (l :: ls) = .ok (some l.token, l :: ls) := rfl
  have hnext : read (Phrase.next "a predicate") (l :: ls) = .ok (l.source, ls) := rfl
  rw [Translation.primary, Translation.bind_of_ok hpeek]
  dsimp only
  rw [hl]
  exact Translation.bind_of_ok hnext

theorem primary_of_test (group? : Option (Translation Predicate))
    (hl : Grammar.closingSign? u.dialect l.token = none) :
    Translation.primary u levels group? (l :: ls) =
      (read Grammar.parenFollows >>= Translation.simplePredicate u levels l.token.keyword?) (l :: ls) := by
  have hpeek : read Phrase.peek (l :: ls) = .ok (some l.token, l :: ls) := rfl
  rw [Translation.primary, Translation.bind_of_ok hpeek]
  dsimp only
  rw [hl]

end Primary

theorem spanning_primary {group? group?' : Option (Translation Predicate)}
    (hgroup : Spanning.Inner w.toPairing w.disjunction levels group? group?') :
    Spanning w.toPairing (w.negation levels) (Translation.primary w.left levels group?)
      (Translation.primary w.right levels group?') := by
  rintro (_ | ⟨l, ls⟩) ls' hls
  · have hnil := w.input_nil hls
    subst hnil
    exact .stop (w.halts_fault (.endReached _))
  · obtain ⟨l', rest', rfl, halike, hsource, hrest⟩ := w.input_cons hls
    have hsign := halike.closingSign w.left.dialect
    cases hl : Grammar.closingSign? w.left.dialect l.token with
    | some sign =>
      rw [primary_of_opening group? hl, primary_of_opening group?' (by rw [w.dialect_eq, hsign, hl])]
      have hinner : Spanning w.toPairing (fun s p p' t => ∃ closing, closing.1.token = .sign sign ∧
            Below (fun n p p' => w.disjunction n s p p' (closing :: t)) levels p p')
          (Translation.nested group? l.source >>= fun p => read (Phrase.require sign) >>= fun _ => Pure.pure p)
          (Translation.nested group?' l'.source >>= fun p => read (Phrase.require sign) >>= fun _ => Pure.pure p) := by
        refine (Spanning.nested hgroup hsource).bind fun s p p' mid hp => ?_
        refine (Spanning.require sign).bind fun s' _ _ t hclosing => .pure ?_
        obtain ⟨m, m', rfl, hm⟩ := hclosing
        rintro _ rfl rfl
        exact ⟨(m, m'), hm, hp⟩
      refine (hinner ls rest' hrest).mono fun p p' _ _ h => ?_
      obtain ⟨closing, hclosing, hp⟩ := h
      exact w.group hl hclosing hp
    | none =>
      -- A test is read in the same way whether a group may be read there or not.
      have hright : Grammar.closingSign? w.right.dialect l'.token = none := by rw [w.dialect_eq, hsign, hl]
      rw [(primary_of_test group? hl).trans (primary_of_test none hl).symm,
        (primary_of_test group?' hright).trans (primary_of_test none hright).symm]
      refine ((spanning_tested levels).reads _ _ hls).mono fun p p' rest rest' h => ?_
      obtain ⟨htested, hreads⟩ := h
      cases htested with
      | test h => exact w.negation_of_test hreads h
      | pattern hx hy hstands hcomma hwritten hclosing =>
        exact w.negation_of_pattern hreads hx hy hstands hcomma hwritten hclosing

/-- What is related of the parts, and kept by the word between them, is related of the whole. -/
theorem spanning_joined (word : String) (production : Production)
    {combine combine' : Predicate → Predicate → Predicate} {item item' : Translation Predicate}
    {A B : LexemePairs → Predicate → Predicate → LexemePairs → Prop} (hitem : Spanning w.toPairing A item item')
    (hstart : ∀ s p p' t, A s p p' t → B s p p' t)
    (hstep : ∀ s p p' l mid q q' t, l.1.token.isWord word = true → B s p p' (l :: mid) → A mid q q' t →
      B s (combine p q) (combine' p' q') t) :
    Spanning w.toPairing B (Translation.joined w.left word production combine item)
      (Translation.joined w.right word production combine' item') := by
  have hnext : ∀ token token', w.source token token' → Spanning w.toPairing A
      (Translation.nextPredicate w.left production item token)
      (Translation.nextPredicate w.right production item' token') := by
    intro token token' _
    refine hitem.bind fun s q q' mid hq => .complete_ok ?_
    rintro _ rfl
    exact hq
  refine hitem.bind fun s p p' mid hp => ?_
  have hmore : Spanning w.toPairing
      (fun mid more more' t => ∀ q q', B s q q' mid → B s (more.foldl combine q) (more'.foldl combine' q') t)
      (Translation.repeatAfter (Phrase.acceptWord word) (Translation.nextPredicate w.left production item))
      (Translation.repeatAfter (Phrase.acceptWord word) (Translation.nextPredicate w.right production item')) :=
    Spanning.foldl_repeatAfter (.isWord word) hnext fun q q' l l' mid r r' t hq hl hr =>
      hstep s q q' (l, l') mid r r' t hl hq hr
  refine hmore.bind fun _ more more' t hall => .pure ?_
  rintro _ rfl rfl
  exact hall p p' (hstart s p p' _ hp)

theorem spanning_disjunctionOf {item item' : Translation Predicate}
    (h : Spanning w.toPairing (w.negation levels) item item') :
    Spanning w.toPairing (w.disjunction levels) (Translation.disjunctionOf w.left item)
      (Translation.disjunctionOf w.right item') := by
  have hconjunction := spanning_joined "AND" .and h (fun _ _ _ _ => w.conjunction_of_negation)
    fun _ _ _ _ _ _ _ _ => w.and
  exact spanning_joined "OR" .or hconjunction (fun _ _ _ _ => w.disjunction_of_conjunction)
    fun _ _ _ _ _ _ _ _ => w.or

theorem spanning_negationWith {inner? inner?' : Option (Translation Predicate)}
    (hinner : Spanning.Inner w.toPairing w.negation levels inner? inner?') :
    Spanning w.toPairing (w.negation levels) (Translation.negationWith w.left levels inner?)
      (Translation.negationWith w.right levels inner?') := by
  refine (Spanning.acceptIf (.isWord "NOT")).bind fun s not? not?' mid haccepted => ?_
  cases haccepted with
  | some hstands hl htakes =>
    refine (Spanning.nested hinner htakes.source).bind fun s' p p' t hp => .complete_ok ?_
    rintro _ rfl rfl
    exact w.not hl hp
  | none =>
    have hgroup : Spanning.Inner w.toPairing w.disjunction levels (inner?.map (Translation.disjunctionOf w.left))
        (inner?'.map (Translation.disjunctionOf w.right)) := by
      cases hinner with
      | none => exact .none
      | some h => exact .some (spanning_disjunctionOf h)
    refine (spanning_primary hgroup).mono ?_
    rintro _ p p' t hp rfl
    exact hp

theorem spanning_negation (levels : Nat) :
    Spanning w.toPairing (w.negation levels) (Translation.negation w.left levels)
      (Translation.negation w.right levels) := by
  induction levels with
  | zero => exact spanning_negationWith .none
  | succ levels ih => exact spanning_negationWith (.some ih)

/-- Filters with the same number of levels left for nesting are related where they are read. -/
theorem spanning_filter (levels : Nat) :
    Spanning w.toPairing (w.disjunction levels) (Translation.filter w.left levels)
      (Translation.filter w.right levels) :=
  spanning_disjunctionOf (spanning_negation levels)

end GeoFilter
