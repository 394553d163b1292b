import GeoFilter.Proofs.Rereading.Geometry

/-!
# Shown expressions are read again

The text of an expression, which has parentheses around all arithmetic, is an operand of an expression, and an equal
expression is read from it.
-/

namespace GeoFilter

open Scan (Spells AnyText Ahead EndsWord EndsNumber)

abbrev EndsValue : List Char → Prop := Ahead [' ', ',', ')']

theorem EndsValue.endsNumber {rest : List Char} (h : EndsValue rest) : EndsNumber rest := by
  intro c hc
  have hc := h c hc
  simp only [List.mem_cons, List.not_mem_nil, or_false] at hc
  rcases hc with rfl | rfl | rfl <;> decide

theorem EndsValue.endsWord {rest : List Char} (h : EndsValue rest) : EndsWord rest := by
  intro c hc
  have hc := h c hc
  simp only [List.mem_cons, List.not_mem_nil, or_false] at hc
  rcases hc with rfl | rfl | rfl <;> decide

theorem EndsValue.of_part {rest : List Char} (h : EndsPart rest) : EndsValue rest := by
  intro c hc
  have := h c hc
  simp_all

/-- Tokens at which an operand ends.  The one word that qualifies geometries does so in front of an equals sign. -/
def EndsOperand (x : Expression) (r : List Token) : Prop :=
  EndsName r ∧ (x.isSrid = true → r.head? ≠ some (.sign .equal))

/-- Tokens at which an expression ends, alone or with operators around it. -/
def EndsTerm (x : Expression) (r : List Token) : Prop :=
  EndsExpression r ∧ (x.isSrid = true → r.head? ≠ some (.sign .equal))

theorem ends_of_followed {r : List Token} (h : Followed [.comma, .rightParen] r) :
    EndsExpression r ∧ r.head? ≠ some (.sign .equal) := by
  rcases r with _ | ⟨token, r⟩
  · exact ⟨nofun, nofun⟩
  · obtain ⟨sign, hsign, rfl⟩ := h token r rfl
    simp only [List.mem_cons, List.not_mem_nil, or_false] at hsign
    rcases hsign with rfl | rfl
    · exact ⟨.cons rfl r, by simp⟩
    · exact ⟨.cons rfl r, by simp⟩

theorem EndsTerm.of_followed {x : Expression} {r : List Token} (h : Followed [.comma, .rightParen] r) : EndsTerm x r :=
  ⟨(ends_of_followed h).1, fun _ => (ends_of_followed h).2⟩

/-- Tokens that the text of an expression is cut into and an equal expression that is read from them. -/
structure Expression.RereadAs (u : Setting) (leading : Bool) (x : Expression) (ts : List Token) (y : Expression) : Prop where
  spells : Spells x.toText.toList ts EndsValue
  same : (y == x) = true
  yields : ∀ levels, x.depth ≤ levels →
    Yields (Translation.factor u levels (Translation.deeper u levels)) ts (EndsOperand x) (some y)
  opens : ∃ token more, ts = token :: more ∧ token ≠ .sign .rightParen ∧
    (leading = true → x.startsTest = true → ∀ r, EndsName r → token.LeadsTest ((more ++ r).head? == some (.sign .leftParen)))

theorem ArithmeticOp.symbol_eq (op : ArithmeticOp) : op.symbol = op.sign.spelling := by
  cases op <;> rfl

theorem leadsTest_of_keyword {text : String} {keyword : Keyword} {called : Bool}
    (hkeyword : Keyword.ofText? text = some keyword) (hnot : keyword ≠ .NOT) (hleads : keyword.leadsTest called = true) :
    (Token.word text none).LeadsTest called := by
  refine ⟨Token.isWord_not_of_keyword hkeyword hnot, rfl, ?_⟩
  intro keyword' hkeyword'
  cases hkeyword.symm.trans hkeyword'
  exact hleads

namespace Expression

variable {u : Setting} {leading : Bool}

/-! ### Attributes -/

theorem reread_property (hu : u.IsPlain) {path : PropertyPath} {first : String} (words : path.StartsWith first)
    (free : (Token.word first none).truth? = none) (leads : leading = true → (Token.word first none).LeadsTest false) :
    ∃ ts y, (Expression.property path).RereadAs u leading ts y := by
  obtain ⟨more, hsegments, hspells⟩ := words.spells
  refine ⟨_, .property path, hspells.mono fun _ => EndsValue.endsWord, ?_, fun levels _ => ?_, ?_⟩
  · change (path == path) = true
    exact beq_self_eq_true path
  · have hsrid : ∀ r, EndsOperand (.property path) r → Keyword.ofText? first = some .SRID →
        (more.flatMap NamePart.tokens ++ r).head? ≠ some (.sign .equal) := by
      intro r hr hfirst
      cases more with
      | nil =>
        obtain ⟨segments⟩ := path
        obtain rfl : segments = [first] := hsegments
        exact hr.2 (by simp [isSrid, hfirst])
      | cons part more => cases part <;> simp [NamePart.tokens]
    have hproperty : Yields (Translation.factor u levels (Translation.deeper u levels)) _ (EndsOperand (.property path))
        (some (u.kit.factory.property (NamePart.segments first more))) :=
      .factor_property hu.permits more free (fun _ hr => hr.1) hsrid
    rw [hu.factory, ← hsegments] at hproperty
    exact hproperty
  · refine ⟨_, _, rfl, nofun, fun hleading _ r hr => ?_⟩
    rw [Yields.not_called hr]
    exact leads hleading

/-! ### Literals -/

theorem reread_number (hu : u.IsPlain) {v : Number} (h : v.IsLiteral) :
    ∃ ts y, (Expression.literal (.number v)).RereadAs u leading ts y := by
  obtain ⟨n, hspells, hsame⟩ := h.exists_signedNumber
  refine ⟨n.tokens, .literal (.number n.value), hspells.mono fun _ => EndsValue.endsNumber, hsame,
    fun levels _ => .factor_number hu.permits n, ?_⟩
  obtain ⟨negative, text, long, value, hreads⟩ := n
  have hleads : ∀ called, (Token.number text long).LeadsTest called ∧ (Token.sign .minus).LeadsTest called :=
    fun called => ⟨⟨rfl, rfl, nofun⟩, ⟨rfl, rfl, nofun⟩⟩
  cases negative with
  | false => exact ⟨_, _, rfl, nofun, fun _ _ _ _ => (hleads _).1⟩
  | true => exact ⟨_, _, rfl, nofun, fun _ _ _ _ => (hleads _).2⟩

theorem reread_string (hu : u.IsPlain) (s : String) :
    ∃ ts y, (Expression.literal (.string s)).RereadAs u leading ts y := by
  refine ⟨[.quoted s], .literal (.string s), (Spells.quoted s).mono fun rest hrest => ?_, ?_,
    fun levels _ => .factor_quoted hu.permits s, _, _, rfl, nofun, fun _ _ _ _ => ⟨rfl, rfl, nofun⟩⟩
  · intro hquote
    have := hrest '\'' hquote
    simp at this
  · change (s == s) = true
    exact beq_self_eq_true s

theorem isPlainWord_boolean (b : Bool) : Scan.IsPlainWord (Literal.boolean b).toText.toList := by
  cases b with
  | true => exact Scan.isPlainWord_of_all rfl (by decide) rfl
  | false => exact Scan.isPlainWord_of_all rfl (by decide) rfl

theorem reread_boolean (hu : u.IsPlain) (b : Bool) :
    ∃ ts y, (Expression.literal (.boolean b)).RereadAs u leading ts y := by
  have hleads : ∀ called, (Token.word (Literal.boolean b).toText none).LeadsTest called := by
    intro called
    cases b with
    | true =>
      have hkeyword : Keyword.ofText? "TRUE" = some .TRUE := Keyword.ofText_of_mem (by simp [Keyword.table])
      exact leadsTest_of_keyword hkeyword nofun rfl
    | false =>
      have hkeyword : Keyword.ofText? "FALSE" = some .FALSE := Keyword.ofText_of_mem (by simp [Keyword.table])
      exact leadsTest_of_keyword hkeyword nofun rfl
  let word : TruthWord := ⟨(Literal.boolean b).toText, b, by cases b <;> decide +kernel⟩
  refine ⟨[.word word.text none], .literal (.boolean b),
    (Spells.word (isPlainWord_boolean b)).mono fun _ => EndsValue.endsWord, ?_,
    fun levels _ => .factor_truth hu word, _, _, rfl, nofun, fun _ _ _ _ => hleads _⟩
  change (b == b) = true
  exact beq_self_eq_true b

/-! ### Geometries -/

theorem reread_geometry (hu : u.IsPlain) {g : Geometry} (h : g.Compiled) :
    ∃ ts y, (Expression.literal (.geometry ⟨g, none⟩)).RereadAs u leading ts y := by
  obtain ⟨t, hspells, ⟨g', hg', hsame⟩, hdepth⟩ := h.exists_text
  obtain ⟨shape, text, ts, hword, htokens⟩ := t.tokens_cons
  refine ⟨t.tokens, .literal (.geometry ⟨g', none⟩), hspells.mono fun _ _ => trivial, ?_, fun levels hlevels => ?_,
    _, _, htokens, nofun, fun _ _ _ _ => leadsTest_of_keyword hword nofun rfl⟩
  · have hpair : (g' == g && (none : Option Crs) == none) = true := by rw [hsame]; rfl
    exact hpair
  · have hfactor : Yields (Translation.factor u levels (Translation.deeper u levels)) t.tokens Anything _ :=
      yields_factor hu.permits (Nat.le_trans hdepth hlevels)
    rw [hg'] at hfactor
    exact hfactor.mono fun _ _ => trivial

theorem exists_numberText_of_int32 {n : Int32} (hpos : 0 < n.toInt) :
    ∃ number : NumberText, (toString n.toInt).toList = number.chars ∧ Decimal.readInt32? number.text = some n ∧
      Spells number.chars [.number number.text false] EndsNumber := by
  have hhigh := n.toInt_le
  change n.toInt ≤ 2147483647 at hhigh
  refine ⟨.ofNat n.toInt.natAbs, ?_, ?_, ?_⟩
  · have hminus : minusChars (n.toInt < 0) = [] := if_neg (by simp; omega)
    rw [toList_toString, hminus, List.nil_append]
  · have habs : (n.toInt.natAbs : Int) = n.toInt := by omega
    rw [Decimal.readInt32?, NumberText.readInt_ofNat, Option.bind_some, habs, Numeral.int32_ofInt (by omega) (by omega),
      Int32.ofInt_toInt]
  · simpa using (NumberText.ofNat n.toInt.natAbs).spells false

/-- The text of a geometry with a reference system, whose number has the digits of a numeral. -/
theorem spells_srid {g : Geometry} {crs : Crs} {ts : List Token} {number : NumberText}
    (hshown : (toString crs.srid.toInt).toList = number.chars)
    (hdigits : Spells number.chars [.number number.text false] EndsNumber) (h : Spells g.toText.toList ts AnyText) :
    Spells (Expression.literal (.geometry ⟨g, some crs⟩)).toText.toList
      (.word "SRID" none :: .sign .equal :: .number number.text false :: .sign .semicolon :: ts) AnyText := by
  have hall : (Expression.literal (.geometry ⟨g, some crs⟩)).toText.toList =
      "SRID".toList ++ (['='] ++ (number.chars ++ ([';'] ++ g.toText.toList))) := by
    have htext : (Expression.literal (.geometry ⟨g, some crs⟩)).toText =
        "SRID=" ++ toString crs.srid.toInt ++ ";" ++ g.toText := rfl
    rw [htext, String.toList_append, String.toList_append, String.toList_append, hshown]
    simp
  have hword : Spells "SRID".toList [.word "SRID" none] EndsWord :=
    .word (Scan.isPlainWord_of_all rfl (by decide) rfl)
  have hsemicolon : Spells [';'] [.sign .semicolon] AnyText := .sign (s := .semicolon) (by simp)
  have hbehind := hdigits.append (hsemicolon.append h fun _ _ => trivial) fun rest _ c hc => by
    cases hc
    decide
  obtain ⟨d, ds, hchars, hd⟩ := number.exists_digit
  have hequal := Spells.equal.append hbehind fun rest _ c hc => by
    rw [hchars] at hc
    cases hc
    exact ⟨fun h => by simp [h] at hd, fun h => by simp [h] at hd⟩
  have hqualified := hword.append hequal fun rest _ c hc => by
    cases hc
    decide
  rw [hall]
  exact hqualified

theorem reread_srid (hu : u.IsPlain) (hecql : u.dialect = .ecql) {g : Geometry} (h : g.Compiled) {crs : Crs}
    (hcrs : crs.IsKnown u.kit.resolver) :
    ∃ ts y, (Expression.literal (.geometry ⟨g, some crs⟩)).RereadAs u leading ts y := by
  obtain ⟨t, hspells, ⟨g', hg', hsame⟩, hdepth⟩ := h.exists_text
  obtain ⟨hpos, hresolves⟩ := hcrs
  obtain ⟨number, hshown, hread, hdigits⟩ := exists_numberText_of_int32 hpos
  have hqualified : ∀ place, qualifiedByToken u.kit.resolver g' ⟨number.text, place⟩ = .ok ⟨g', some crs⟩ := by
    intro place
    have htrimmed : Text.trimmed number.text = number.text := number.numeral.trimmed_eq
    unfold qualifiedByToken
    rw [htrimmed, hread]
    dsimp only
    rw [qualified, hresolves]
  have hkeyword : Keyword.ofText? "SRID" = some .SRID := Keyword.ofText_of_mem (by simp [Keyword.table])
  have hpair : (g' == g && some crs == some crs) = true := by simp [hsame]
  refine ⟨.word "SRID" none :: .sign .equal :: .number number.text false :: .sign .semicolon :: t.tokens,
    .literal (.geometry ⟨g', some crs⟩), (spells_srid hshown hdigits hspells).mono fun _ _ => trivial, hpair,
    fun levels hlevels => ?_, _, _, rfl, nofun, fun _ _ _ _ => leadsTest_of_keyword hkeyword nofun rfl⟩
  exact (yields_factor_srid hu.permits hecql (Nat.le_trans hdepth hlevels) hg' hqualified).mono fun _ _ => trivial

/-! ### Function calls and arithmetic -/

section Reread

variable {x y : Expression} {ts : List Token} {levels : Nat}

theorem RereadAs.expression (h : x.RereadAs u leading ts y) (hdepth : x.depth ≤ levels) :
    Yields (Translation.expression u levels) ts (EndsTerm x) (some y) :=
  .expression_of_factor (fun _ hr => hr.1) ((h.yields levels hdepth).mono fun _ hr => ⟨hr.1.endsName, hr.2⟩)

theorem RereadAs.part (h : x.RereadAs u leading ts y) (hdepth : x.depth ≤ levels) :
    Yields (Translation.expression u levels) ts (Followed [.comma, .rightParen]) (some y) :=
  (h.expression hdepth).mono fun _ => EndsTerm.of_followed

theorem RereadAs.nested (h : x.RereadAs u leading ts y) (hdepth : x.depth + 1 ≤ levels) (opener : SourceToken) :
    Yields (Translation.nested (Translation.deeper u levels) opener) ts (Followed [.comma, .rightParen]) (some y) := by
  cases levels with
  | zero => omega
  | succ levels => exact h.part (by omega)

end Reread

theorem texts_eq (args : List Expression) : texts args = args.map toText := eq_map_of_cons rfl fun _ _ => rfl

theorem sameList_of_forall₂ {as bs : List Expression} (h : List.Forall₂ (fun a b => (a == b) = true) as bs) :
    sameList as bs = true := same_of_forall₂ rfl (fun _ _ _ _ => rfl) h

theorem depth_lt_argumentsDepth {arg : Expression} {args : List Expression} (h : arg ∈ args) :
    arg.depth + 1 ≤ argumentsDepth args := depth_lt_of_mem (fun _ _ => rfl) h

theorem reread_function (hu : u.IsPlain) {name : String} {args : List Expression} (word : IsWord name)
    (free : ∀ keyword ∈ Keyword.ofText? name, keyword.isCallable = true)
    (leads : leading = true → name = "relate" ∨ (Token.word name none).LeadsTest true)
    (hargs : ∀ arg ∈ args, ∃ ts y, arg.RereadAs u false ts y) :
    ∃ ts y, (Expression.function name args).RereadAs u leading ts y := by
  have hexpression : Nonempty Expression := ⟨.literal (.boolean true)⟩
  choose! tokens value h using hargs
  refine ⟨.word name none :: .sign .leftParen :: (commaTokens tokens args ++ [.sign .rightParen]),
    .function name (args.map value), ?_, ?_, fun levels hlevels => ?_, _, _, rfl, nofun, ?_⟩
  · have htext : (Expression.function name args).toText = name ++ "(" ++ ", ".intercalate (texts args) ++ ")" := rfl
    have hparts := spells_commaSeparated fun arg harg => (h arg harg).spells.mono fun _ => EndsValue.of_part
    have henclosed := ((hparts.mono fun _ => EndsPart.of_closed).rightParen (F := EndsValue)).leftParen
    rw [htext, texts_eq, append_paren]
    refine (Spells.unquoted word).word_paren ?_
    simpa using henclosed
  · have hsame : (name == name && sameList (args.map value) args) = true := by
      rw [beq_self_eq_true, Bool.true_and]
      apply sameList_of_forall₂
      rw [List.forall₂_map_left_iff, List.forall₂_same]
      exact fun arg harg => (h arg harg).same
    exact hsame
  · have hcall : Yields (Translation.factor u levels (Translation.deeper u levels))
        (.word name none :: .sign .leftParen :: (commaTokens tokens args ++ [.sign .rightParen]))
        (EndsOperand (.function name args)) (some (u.kit.factory.function name (args.map value))) := by
      refine .factor_call hu.permits free (fun arg harg opener => ?_) fun arg harg => ?_
      · exact (h arg harg).nested (Nat.le_trans (depth_lt_argumentsDepth harg) hlevels) opener
      · obtain ⟨token, more, htokens, hne, _⟩ := (h arg harg).opens
        exact ⟨token, more, htokens, hne⟩
    rw [hu.factory] at hcall
    exact hcall
  · intro hleading hstarts r _
    have hname : name ≠ "relate" := by simpa [startsTest] using hstarts
    exact (leads hleading).resolve_left hname

theorem reread_arithmetic (hu : u.IsPlain) (op : ArithmeticOp) {left right : Expression}
    (hleft : ∃ ts y, left.RereadAs u false ts y) (hright : ∃ ts y, right.RereadAs u false ts y) :
    ∃ ts y, (Expression.arithmetic op left right).RereadAs u leading ts y := by
  obtain ⟨ts, x, hx⟩ := hleft
  obtain ⟨ts', y, hy⟩ := hright
  refine ⟨.sign .leftParen :: (ts ++ .sign op.sign :: ts' ++ [.sign .rightParen]), .arithmetic op x y, ?_, ?_,
    fun levels hlevels => ?_, _, _, rfl, nofun, fun _ hstarts => by cases hstarts⟩
  · have htext : (Expression.arithmetic op left right).toText =
        "(" ++ left.toText ++ " " ++ op.symbol ++ " " ++ right.toText ++ ")" := rfl
    have hsign := (Spells.sign_blank op.sign).append hy.spells.blank fun rest _ => Ahead.cons (by simp) _
    have hboth := hx.spells.append hsign.blank fun rest _ => Ahead.cons (by simp) _
    have hclosed := hboth.mono fun rest hrest => EndsValue.of_part (EndsPart.of_closed hrest)
    rw [htext, ArithmeticOp.symbol_eq]
    simpa using (hclosed.rightParen (F := EndsValue)).leftParen
  · have hsame : (op == op && same x left && same y right) = true := by
      have hsames : same x left = true ∧ same y right = true := ⟨hx.same, hy.same⟩
      rw [beq_self_eq_true, hsames.1, hsames.2]
      rfl
    exact hsame
  · have hdepth : max left.depth right.depth + 1 ≤ levels := hlevels
    obtain ⟨levels, rfl⟩ : ∃ n, levels = n + 1 := ⟨levels - 1, by omega⟩
    have hoperand : ∀ {x y : Expression} {ts : List Token}, x.RereadAs u false ts y → x.depth ≤ levels →
        Yields (Translation.factor u levels (Translation.deeper u levels)) ts
          (fun r => EndsName r ∧ r.head? ≠ some (.sign .equal)) (some y) :=
      fun h hdepth => (h.yields levels hdepth).mono fun _ hr => ⟨hr.1, fun _ => hr.2⟩
    have hinner : Yields (Translation.expression u levels) (ts ++ .sign op.sign :: ts') (Followed [.rightParen])
        (some (u.kit.factory.arithmetic op x y)) := by
      have hends : ∀ r, Followed [.rightParen] r → EndsExpression r ∧ r.head? ≠ some (.sign .equal) :=
        fun r hr => ends_of_followed (hr.mono fun _ => List.mem_cons_of_mem _)
      refine .expression_binary hu.permits op (hoperand hx (by omega)) (hoperand hy (by omega)) (fun r => ?_)
        (fun r hr => ⟨(hends r hr).1.endsName, (hends r hr).2⟩) fun r hr => (hends r hr).1
      cases op <;> exact ⟨.cons rfl r, by simp [ArithmeticOp.sign]⟩
    rw [hu.factory] at hinner
    exact .factor_group hinner

/-! ### Expressions -/

/-- The text of an expression is an operand from which an equal expression is read, if the texts of its literals are. -/
theorem Written.reread (hu : u.IsPlain) {ofLiteral : Literal → Prop}
    (hliteral : ∀ value, ofLiteral value → ∀ leading, ∃ ts y, (Expression.literal value).RereadAs u leading ts y)
    {x : Expression} (h : x.Written ofLiteral leading) : ∃ ts y, x.RereadAs u leading ts y := by
  induction h with
  | property words free leads => exact reread_property hu words free leads
  | literal compiled => exact hliteral _ compiled _
  | function word free leads _ ih => exact reread_function hu word free leads ih
  | arithmetic _ _ ihleft ihright => exact reread_arithmetic hu _ ihleft ihright

theorem reread_literal (hu : u.IsPlain) (hecql : u.dialect = .ecql) {value : Literal}
    (h : value.Compiled u.kit.resolver) (leading : Bool) :
    ∃ ts y, (Expression.literal value).RereadAs u leading ts y := by
  cases value with
  | number v => exact reread_number hu h
  | string s => exact reread_string hu s
  | boolean b => exact reread_boolean hu b
  | geometry g =>
    obtain ⟨g, crs?⟩ := g
    cases crs? with
    | none => exact reread_geometry hu h.1
    | some crs => exact reread_srid hu hecql h.1 (h.2 crs rfl)

/-- The text of an expression of a statement is an operand from which an equal expression is read. -/
theorem Compiled.reread (hu : u.IsPlain) (hecql : u.dialect = .ecql) {x : Expression}
    (h : x.Compiled u.kit.resolver leading) : ∃ ts y, x.RereadAs u leading ts y :=
  Written.reread hu (fun _ hvalue leading => reread_literal hu hecql hvalue leading) h

end Expression

end GeoFilter
