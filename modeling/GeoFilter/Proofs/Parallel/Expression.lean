import GeoFilter.Proofs.Parallel.Geometry
import GeoFilter.Proofs.Translation.Expression

/-!
# Expressions side by side

Expressions are related as soon as what they are made of is: an `ExpressionPairing` has a relation for each level of
the grammar, and what a setting has to show is that its factory keeps to them.  A geometry that names a reference
system is the only place where a resolver has a part in an expression.
-/

namespace GeoFilter

open Translation (read read_phrase_bind)
open Pairing (Same Below)

/-! ### Related expressions -/

/-- A pairing with relations between the expressions that are made on both sides, by the kind of the expression and
the number of levels left for nesting. -/
structure ExpressionPairing extends Pairing where
  geometry : GeometryLiteral → GeometryLiteral → Prop
  factor : Nat → Expression → Expression → Prop
  product : Nat → Expression → Expression → Prop
  sum : Nat → Expression → Expression → Prop
  unlocated : ∀ {g : Geometry}, g.WellFormed → geometry ⟨g, none⟩ ⟨g, none⟩
  located : ∀ {g : Geometry} {srid token token'}, g.WellFormed → source token token' →
    toPairing.Values geometry (qualified left.kit.resolver g srid token) (qualified right.kit.resolver g srid token')
  geometryLiteral : ∀ {g g'} (levels : Nat), geometry g g' →
    factor levels (.literal (.geometry g)) (.literal (.geometry g'))
  literal : ∀ {value : Literal} (levels : Nat), (∀ g, value ≠ .geometry g) →
    factor levels (.literal value) (.literal value)
  property : ∀ {names names' : List String} (levels : Nat), names ≠ [] → List.Forall₂ toPairing.Texts names names' →
    factor levels (left.kit.factory.property names) (right.kit.factory.property names')
  function : ∀ {name name' : String} {args args' : List Expression} {levels : Nat}, toPairing.Texts name name' →
    List.Forall₂ (Below sum levels) args args' →
    factor levels (left.kit.factory.function name args) (right.kit.factory.function name' args')
  grouped : ∀ {x x' : Expression} {levels : Nat}, Below sum levels x x' → factor levels x x'
  product_of_factor : ∀ {x x' : Expression} {levels : Nat}, factor levels x x' → product levels x x'
  sum_of_product : ∀ {x x' : Expression} {levels : Nat}, product levels x x' → sum levels x x'
  multiplied : ∀ {x x' y y' : Expression} {levels : Nat} (op : ArithmeticOp), product levels x x' →
    factor levels y y' →
    product levels (left.kit.factory.arithmetic op x y) (right.kit.factory.arithmetic op x' y')
  added : ∀ {x x' y y' : Expression} {levels : Nat} (op : ArithmeticOp), sum levels x x' → product levels y y' →
    sum levels (left.kit.factory.arithmetic op x y) (right.kit.factory.arithmetic op x' y')

theorem unlocated_itself {g : Geometry} (_ : g.WellFormed) : (⟨g, none⟩ : GeometryLiteral) = ⟨g, none⟩ := rfl

theorem literal_itself {value : Literal} (_ : Nat) (_ : ∀ g, value ≠ .geometry g) :
    Expression.literal value = .literal value := rfl

variable {w : ExpressionPairing} {g : Geometry} {n n' : Option SourceToken × SourceToken}

/-! ### Reference systems -/

theorem values_qualifiedByNumber (hg : g.WellFormed) {v : Number} (hv : w.Valued v n n') :
    w.Values w.geometry (qualifiedByNumber w.left.kit.resolver g v (n.1.getD n.2))
      (qualifiedByNumber w.right.kit.resolver g v (n'.1.getD n'.2)) := by
  cases v with
  | integer k => exact w.located hg hv.signed.first
  | long | float | double => exact .stop (w.halts_finding (.srid hv.signed.first))

theorem values_qualifiedByToken (hg : g.WellFormed) (hn : w.Signed n n') :
    w.Values w.geometry (qualifiedByToken w.left.kit.resolver g (Grammar.withSign n))
      (qualifiedByToken w.right.kit.resolver g (Grammar.withSign n')) := by
  unfold qualifiedByToken
  rw [hn.withSign_text, hn.numeral.trimmed_withSign]
  split
  case h_1 srid hread => exact w.located hg hn.withSign
  case h_2 => exact .stop (w.halts_finding (.srid hn.withSign))

theorem values_qualifiedByCode (hg : g.WellFormed) {code? code?' : Option SourceToken}
    (hcode : Option.Rel (w.Takes Grammar.isCode) code? code?') :
    w.Values w.geometry (qualifiedByCode w.left.kit.resolver g code?)
      (qualifiedByCode w.right.kit.resolver g code?') := by
  cases hcode with
  | none => exact .value (w.unlocated hg)
  | @some code code' htoken =>
    unfold qualifiedByCode
    dsimp only
    rw [htoken.text_eq fun _ => rfl]
    split
    case h_1 srid hread => exact w.located hg htoken.source
    case h_2 => exact .stop (w.halts_finding (.srid htoken.source))

theorem parallel_referenceSystem {w : Pairing} :
    Parallel w (fun code code' => Option.Rel (w.Takes Grammar.isCode) code.head? code'.head?)
      (read Grammar.referenceSystem?) (read Grammar.referenceSystem?) := by
  rw [Grammar.referenceSystem?, read_phrase_bind]
  refine (Parallel.accept _).bind fun comma? comma?' hcomma => ?_
  cases hcomma with
  | none => exact .pure .none
  | some =>
    rw [read_phrase_bind]
    exact (Parallel.expectIf .isCode _).map fun code code' hcode => .some hcode

/-! ### Bounds -/

def Pairing.Bounds (w : Pairing) (token token' : SourceToken) : Prop :=
  ∃ n n', w.Signed n n' ∧ token = Grammar.withSign n ∧ token' = Grammar.withSign n'

theorem values_boundOf {token token' : SourceToken} (h : w.Bounds token token') :
    w.Values (Same Floating.IsNumber) (boundOf token) (boundOf token') := by
  obtain ⟨n, n', hn, rfl, rfl⟩ := h
  have hread : ∃ x, Decimal.readFloat? (Grammar.withSign n).text = some x ∧ Floating.IsNumber x := by
    have hnumeral := hn.numeral
    obtain ⟨_ | minus, token⟩ := n
    · obtain ⟨x, hx⟩ := hnumeral.readFloat_isSome
      exact ⟨x, hx, hnumeral.isNumber hx⟩
    · obtain ⟨x, hx⟩ := hnumeral.readFloat_minus_isSome
      exact ⟨x, hx, hnumeral.isNumber_minus hx⟩
  obtain ⟨x, hx, hnumber⟩ := hread
  unfold boundOf
  rw [hn.withSign_text, hx]
  exact .value ⟨rfl, hnumber⟩

theorem wellFormed_rectangle {x x' y y' : Float} (hx : Floating.IsNumber x) (hx' : Floating.IsNumber x')
    (hy : Floating.IsNumber y) (hy' : Floating.IsNumber y') : (rectangle x x' y y').WellFormed :=
  .polygon (Polygon.isRectangle_between hx hx' hy hy').wellFormed

theorem values_rectangleOf {west west' east east' north north' south south' : SourceToken}
    (hwest : w.Bounds west west') (heast : w.Bounds east east') (hnorth : w.Bounds north north')
    (hsouth : w.Bounds south south') {code? code?' : Option SourceToken}
    (hcode : Option.Rel (w.Takes Grammar.isCode) code? code?') :
    w.Values w.geometry (rectangleOf w.left.kit.resolver west east north south code?)
      (rectangleOf w.right.kit.resolver west' east' north' south' code?') := by
  refine (values_boundOf hwest).bind ?_
  rintro _ minX ⟨rfl, hminX⟩
  refine (values_boundOf heast).bind ?_
  rintro _ maxX ⟨rfl, hmaxX⟩
  refine (values_boundOf hnorth).bind ?_
  rintro _ maxY ⟨rfl, hmaxY⟩
  refine (values_boundOf hsouth).bind ?_
  rintro _ minY ⟨rfl, hminY⟩
  exact values_qualifiedByCode (wellFormed_rectangle hminX hmaxX hminY hmaxY) hcode

theorem parallel_envelopeBound :
    Parallel w.toPairing w.Bounds (Translation.envelopeBound w.left) (Translation.envelopeBound w.right) := by
  unfold Translation.envelopeBound
  rw [w.dialect_eq]
  cases w.left.dialect with
  | cql => exact (parallel_signedNumber _).map fun x y h => ⟨x.2, y.2, h.2.signed, rfl, rfl⟩
  | ecql => exact Parallel.signed.map fun n n' hn => ⟨n, n', hn, rfl, rfl⟩

theorem parallel_envelope :
    Parallel w.toPairing w.geometry (Translation.envelope w.left) (Translation.envelope w.right) := by
  refine (Parallel.next _).bind fun keyword keyword' _ => (Parallel.require _).bind fun _ _ _ => ?_
  refine parallel_envelopeBound.bind fun west west' hwest => (Parallel.require _).bind fun _ _ _ => ?_
  refine parallel_envelopeBound.bind fun east east' heast => (Parallel.require _).bind fun _ _ _ => ?_
  refine parallel_envelopeBound.bind fun north north' hnorth => (Parallel.require _).bind fun _ _ _ => ?_
  refine parallel_envelopeBound.bind fun south south' hsouth => ?_
  refine parallel_referenceSystem.bind fun code code' hcode => (Parallel.require _).bind fun _ _ _ => ?_
  exact .complete (values_rectangleOf hwest heast hnorth hsouth hcode)

theorem parallel_sridLiteral (levels : Nat) :
    Parallel w.toPairing w.geometry (Translation.sridLiteral w.left levels)
      (Translation.sridLiteral w.right levels) := by
  refine (Parallel.next _).bind fun keyword keyword' _ => (Parallel.require _).bind fun _ _ _ => ?_
  rw [w.dialect_eq]
  cases w.left.dialect with
  | cql =>
    refine (parallel_signedNumber _).bind ?_
    rintro ⟨v, n⟩ ⟨_, n'⟩ ⟨rfl, hv⟩
    refine (Parallel.require _).bind fun _ _ _ => (parallel_geometryLiteral levels).bind ?_
    rintro g _ ⟨rfl, hg⟩
    exact .complete (values_qualifiedByNumber hg hv)
  | ecql =>
    refine Parallel.signed.bind fun n n' hn => (Parallel.require _).bind fun _ _ _ => ?_
    refine (parallel_geometryLiteral levels).bind ?_
    rintro g _ ⟨rfl, hg⟩
    exact .complete (values_qualifiedByToken hg hn)

/-! ### Operands -/

theorem parallel_qualifiedGeometry (levels : Nat) :
    Parallel w.toPairing (w.factor levels) (Translation.ofGeometry (Translation.sridLiteral w.left levels))
      (Translation.ofGeometry (Translation.sridLiteral w.right levels)) :=
  (parallel_sridLiteral levels).map fun _ _ hg => w.geometryLiteral levels hg

theorem parallel_rectangle (levels : Nat) :
    Parallel w.toPairing (w.factor levels) (Translation.ofGeometry (Translation.envelope w.left))
      (Translation.ofGeometry (Translation.envelope w.right)) :=
  parallel_envelope.map fun _ _ hg => w.geometryLiteral levels hg

theorem parallel_plainGeometry (levels : Nat) :
    Parallel w.toPairing (w.factor levels) (Translation.plainGeometry w.left levels)
      (Translation.plainGeometry w.right levels) := by
  refine (parallel_geometryLiteral levels).map ?_
  rintro g _ ⟨rfl, hg⟩
  exact w.geometryLiteral levels (w.unlocated hg)

theorem Token.Alike.sign_of_right {t : Token} {s : Sign} (h : t.Alike (.sign s)) : t = .sign s := by
  cases h
  rfl

theorem Token.Alike.word_of_right {t : Token} {text : String} {quote : Option Char} (h : t.Alike (.word text quote)) :
    ∃ text' quote', t = .word text' quote' := by
  cases h <;> exact ⟨_, _, rfl⟩

theorem Token.Alike.word_of_left {t : Token} {text : String} {quote : Option Char}
    (h : Token.Alike (.word text quote) t) : ∃ text' quote', t = .word text' quote' := by
  cases h <;> exact ⟨_, _, rfl⟩

/-- A sign and a word side by side with lexemes that start with such a sign and a word. -/
theorem Pairing.sign_word {w : Pairing} {s : Sign} {text : String} {quote : Option Char} {place place' : Place}
    {ls ls' : List Lexeme} (h : w.input (⟨.sign s, place⟩ :: ⟨.word text quote, place'⟩ :: ls) ls') :
    ∃ p text' quote' p' rest', ls' = ⟨.sign s, p⟩ :: ⟨.word text' quote', p'⟩ :: rest' ∧
      w.Takes Grammar.isAnyWord ⟨text, place'⟩ ⟨text', p'⟩ ∧ w.input ls rest' := by
  obtain ⟨⟨t, p⟩, _, rfl, halike, _, hrest⟩ := w.input_cons h
  obtain ⟨⟨t', p'⟩, rest', rfl, halike', _, hrest'⟩ := w.input_cons hrest
  cases halike
  obtain ⟨text', quote', rfl⟩ := halike'.word_of_left
  exact ⟨p, text', quote', p', rest', rfl, ⟨_, _, _, _, hrest, rfl, rfl, rfl⟩, hrest'⟩

theorem Pairing.sign_word_right {w : Pairing} {s : Sign} {text : String} {quote : Option Char} {place place' : Place}
    {ls ls' : List Lexeme} (h : w.input ls (⟨.sign s, place⟩ :: ⟨.word text quote, place'⟩ :: ls')) :
    ∃ p text' quote' p' rest, ls = ⟨.sign s, p⟩ :: ⟨.word text' quote', p'⟩ :: rest := by
  rcases ls with _ | ⟨⟨t, p⟩, _ | ⟨⟨t', p'⟩, rest⟩⟩
  · cases w.input_nil h
  · obtain ⟨_, _, heq, _, _, hrest⟩ := w.input_cons h
    cases heq
    cases w.input_nil hrest
  · obtain ⟨_, _, heq, halike, _, hrest⟩ := w.input_cons h
    cases heq
    obtain ⟨_, _, heq, halike', _, _⟩ := w.input_cons hrest
    cases heq
    obtain rfl : t = .sign s := halike.sign_of_right
    obtain ⟨text', quote', rfl⟩ : ∃ text' quote', t' = .word text' quote' := halike'.word_of_right
    exact ⟨p, text', quote', p', rest, rfl⟩

theorem attributeNames_beside {w : Pairing} {first first' : SourceToken} (hfirst : w.Texts first.text first'.text)
    {ls ls' : List Lexeme} (hls : w.input ls ls') :
    List.Forall₂ (fun name name' => w.Texts name.text name'.text) (Grammar.attributeNames first ls).1
        (Grammar.attributeNames first' ls').1 ∧
      w.input (Grammar.attributeNames first ls).2 (Grammar.attributeNames first' ls').2 := by
  fun_induction Grammar.attributeNames first ls generalizing first' ls' with
  | case1 first _ text _ place ls names rest hnames ih =>
    obtain ⟨p, text', quote', p', rest', rfl, hword, hrest⟩ := w.sign_word hls
    obtain ⟨hnext, hend⟩ := ih (.taken hword) hrest
    rw [hnames] at hnext hend
    exact ⟨.cons hfirst hnext, hend⟩
  | case2 first _ text _ place ls ih =>
    obtain ⟨p, text', quote', p', rest', rfl, hword, hrest⟩ := w.sign_word hls
    have hjoined : w.Texts (⟨first.text ++ ":" ++ text, first.place⟩ : SourceToken).text
        (⟨first'.text ++ ":" ++ text', first'.place⟩ : SourceToken).text := .joined hfirst hword
    exact ih hjoined hrest
  | case3 first ls hperiod hcolon =>
    unfold Grammar.attributeNames
    split
    · obtain ⟨p, text', quote', p', rest, rfl⟩ := w.sign_word_right hls
      exact (hperiod _ _ _ _ _ rfl).elim
    · obtain ⟨p, text', quote', p', rest, rfl⟩ := w.sign_word_right hls
      exact (hcolon _ _ _ _ _ rfl).elim
    · exact ⟨.cons hfirst .nil, hls⟩

theorem parallel_attributeTail {w : Pairing} {first first' : SourceToken} (hfirst : w.Texts first.text first'.text) :
    Parallel w (fun names names' => List.Forall₂ (fun name name' => w.Texts name.text name'.text) names names' ∧
        names ≠ [])
      (read (Translation.attributeTail first)) (read (Translation.attributeTail first')) := by
  intro ls ls' hls
  obtain ⟨hnames, hrest⟩ := attributeNames_beside hfirst hls
  exact .value ⟨hnames, Translation.attributeNames_ne_nil first ls⟩ hrest

theorem parallel_propertyName (levels : Nat) :
    Parallel w.toPairing (w.factor levels) (Translation.propertyName w.left) (Translation.propertyName w.right) := by
  refine (Parallel.expectIf .isAnyWord _).bind fun first first' hfirst => ?_
  refine (parallel_attributeTail (.taken hfirst)).bind fun names names' hnames => .complete_ok ?_
  have htexts := List.forall₂_map_left_iff.mpr (List.forall₂_map_right_iff.mpr hnames.1)
  exact w.property levels (by simpa using hnames.2) htexts

section Operands

variable {levels : Nat} {inner? inner?' : Option (Translation Expression)}
  (hinner : Parallel.Inner w.toPairing w.sum levels inner? inner?')

include hinner

theorem parallel_argument :
    Parallel w.toPairing (Below w.sum levels) (Translation.argument w.left inner?)
      (Translation.argument w.right inner?') :=
  (Parallel.here _).bind fun _ _ htoken => (Parallel.nested hinner htoken).bind fun _ _ hx => .complete_ok hx

theorem parallel_functionCall :
    Parallel w.toPairing (w.factor levels) (Translation.functionCall w.left inner?)
      (Translation.functionCall w.right inner?') := by
  refine (Parallel.next _).bind fun name name' hname => (Parallel.require _).bind fun _ _ _ => .complete_bind ?_
  refine (Parallel.accept _).bind fun closing? closing?' hclosing => ?_
  cases hclosing with
  | some => exact .complete_ok (w.function (.taken hname) .nil)
  | none =>
    refine (Parallel.commaSeparated (parallel_argument hinner)).bind ?_
    rintro ⟨x, xs⟩ ⟨x', xs'⟩ hxs
    exact (Parallel.require _).bind fun _ _ _ => .complete_ok (w.function (.taken hname) hxs)

theorem parallel_wordFactor {keyword? keyword?' : Option Keyword} (hkeyword : keyword?' = keyword?) :
    Parallel w.toPairing (w.factor levels) (Translation.wordFactor w.left levels inner? keyword?)
      (Translation.wordFactor w.right levels inner?' keyword?') := by
  subst hkeyword
  refine Parallel.parenFollows.bind ?_
  rintro _ called rfl
  have hattribute := Parallel.ite (b := called = true) Iff.rfl (parallel_functionCall hinner)
    (parallel_propertyName levels)
  have hboolean : Parallel w.toPairing (w.factor levels)
      (read (Phrase.next "an expression") >>= fun token =>
        Translation.complete w.left .booleanLiteral [token]
          (.ok (Expression.literal (.boolean (Text.sameIgnoringAsciiCase token.text "true")))))
      (read (Phrase.next "an expression") >>= fun token =>
        Translation.complete w.right .booleanLiteral [token]
          (.ok (Expression.literal (.boolean (Text.sameIgnoringAsciiCase token.text "true"))))) := by
    refine (Parallel.next _).bind fun token token' htoken => ?_
    rw [htoken.same]
    exact .complete_ok (w.literal levels nofun)
  cases keyword?' with
  | none => exact hattribute
  | some keyword =>
    cases keyword with
    | TRUE => exact hboolean
    | FALSE => exact hboolean
    | SRID =>
      refine Parallel.peekSecond.bind fun second? second?' hsecond => ?_
      refine .ite ?_ (parallel_qualifiedGeometry levels) hattribute
      cases hsecond with
      | none => rfl
      | some h => exact Eq.congr_left (Token.Alike.Respected.sign .equal h)
    | ENVELOPE =>
      exact .ite Iff.rfl (parallel_rectangle levels) (parallel_propertyName levels)
    | shape shape => exact .ite Iff.rfl (parallel_plainGeometry levels) (parallel_propertyName levels)
    | _ => exact hattribute

theorem parallel_factor :
    Parallel w.toPairing (w.factor levels) (Translation.factor w.left levels inner?)
      (Translation.factor w.right levels inner?') := by
  have hnumber : Parallel w.toPairing (w.factor levels)
      (Translation.signedLiteral w.left >>= fun n => Pure.pure (Expression.literal (.number n)))
      (Translation.signedLiteral w.right >>= fun n => Pure.pure (Expression.literal (.number n))) := by
    refine parallel_signedLiteral.map ?_
    rintro n _ ⟨rfl, _⟩
    exact w.literal levels nofun
  have hstring : ∀ text, w.factor levels (.literal (.string text)) (.literal (.string text)) :=
    fun text => w.literal levels nofun
  have hgroup : Parallel w.toPairing (w.factor levels)
      (read (Phrase.next "an expression") >>= fun opener => Translation.nested inner? opener >>= fun x =>
        read (Phrase.require .rightParen) >>= fun _ => Pure.pure x)
      (read (Phrase.next "an expression") >>= fun opener => Translation.nested inner?' opener >>= fun x =>
        read (Phrase.require .rightParen) >>= fun _ => Pure.pure x) := by
    refine (Parallel.next _).bind fun opener opener' hopener => ?_
    refine (Parallel.nested hinner hopener.source).bind fun x x' hx => (Parallel.require _).bind fun _ _ _ => ?_
    exact .pure (w.grouped hx)
  -- The first token is looked at before it is taken: a text between quotes is the same on both sides.
  intro ls ls' hls
  rcases ls with _ | ⟨⟨token, place⟩, ls⟩
  · have hnil := w.input_nil hls
    subst hnil
    exact Parallel.unexpected _ _ _ hls
  · obtain ⟨⟨token', place'⟩, rest', rfl, halike, _, hrest⟩ := w.input_cons hls
    cases halike with
    | word same => exact parallel_wordFactor hinner (Token.Alike.word same).keyword _ _ hls
    | refl =>
      cases token with
      | word text quote => exact parallel_wordFactor hinner rfl _ _ hls
      | number text long => exact hnumber _ _ hls
      | quoted text => exact Parallel.complete_ok (hstring text) _ _ hrest
      | other spelling => exact Parallel.unexpected _ _ _ hls
      | sign sign =>
        cases sign with
        | minus => exact hnumber _ _ hls
        | leftParen => exact hgroup _ _ hls
        | _ => exact Parallel.unexpected _ _ _ hls

end Operands

/-! ### Operators -/

theorem parallel_acceptOperator {w : Pairing} (first second : Sign × ArithmeticOp) :
    Parallel w (Option.Rel fun x y => y.2 = x.2) (read (Grammar.acceptOperator first second))
      (read (Grammar.acceptOperator first second)) := by
  rw [Grammar.acceptOperator, read_phrase_bind]
  refine (Parallel.accept _).bind fun token? token?' htoken => ?_
  cases htoken with
  | some => exact .pure (.some rfl)
  | none =>
    rw [read_phrase_bind]
    refine (Parallel.accept _).map fun token? token?' htoken => ?_
    cases htoken with
    | none => exact .none
    | some => exact .some rfl

/-- What is related of operands, and kept by every operator between them, is related of the whole. -/
theorem parallel_leftGrouped (first second : Sign × ArithmeticOp) {operand operand' : Translation Expression}
    {A B : Expression → Expression → Prop} (hoperand : Parallel w.toPairing A operand operand')
    (hstart : ∀ x x', A x x' → B x x')
    (hstep : ∀ op x x' y y', B x x' → A y y' →
      B (w.left.kit.factory.arithmetic op x y) (w.right.kit.factory.arithmetic op x' y')) :
    Parallel w.toPairing B
      (Translation.leftGrouped w.left (Grammar.acceptOperator first second) operand)
      (Translation.leftGrouped w.right (Grammar.acceptOperator first second) operand') := by
  have hnext : ∀ next next', next'.2 = next.2 → Parallel w.toPairing (fun x y => y.1 = x.1 ∧ A x.2 y.2)
      (Translation.nextOperand w.left operand next) (Translation.nextOperand w.right operand' next') := by
    rintro ⟨token, op⟩ ⟨token', _⟩ rfl
    exact hoperand.bind fun y y' hy => .complete_ok ⟨rfl, hy⟩
  refine hoperand.bind fun x x' hx => ?_
  refine (Parallel.repeatAfter (parallel_acceptOperator first second) hnext).map fun more more' hmore => ?_
  have hB := hstart x x' hx
  clear hx
  unfold Translation.grouped
  induction hmore generalizing x x' with
  | nil => exact hB
  | @cons next next' more more' hnext _ ih =>
    obtain ⟨op, y⟩ := next
    obtain ⟨_, y'⟩ := next'
    obtain ⟨rfl, hy⟩ := hnext
    exact ih _ _ (hstep _ x x' y y' hB hy)

theorem parallel_sumOf {levels : Nat} {operand operand' : Translation Expression}
    (hoperand : Parallel w.toPairing (w.factor levels) operand operand') :
    Parallel w.toPairing (w.sum levels) (Translation.sumOf w.left operand) (Translation.sumOf w.right operand') := by
  have hproduct := parallel_leftGrouped (.star, .mul) (.slash, .div) hoperand (fun _ _ => w.product_of_factor)
    fun op _ _ _ _ => w.multiplied op
  exact parallel_leftGrouped _ _ hproduct (fun _ _ => w.sum_of_product) fun op _ _ _ _ => w.added op

theorem parallel_expression (levels : Nat) :
    Parallel w.toPairing (w.sum levels) (Translation.expression w.left levels)
      (Translation.expression w.right levels) := by
  induction levels with
  | zero => exact parallel_sumOf (parallel_factor .none)
  | succ levels ih => exact parallel_sumOf (parallel_factor (.some ih))

end GeoFilter
