import GeoFilter.Proofs.Ensures.Geometry

/-!
# What expressions are like

Every expression that is translated of unquoted words is `Written` of the literals that are translated of the same tokens,
and leads a test if the tokens at its start do.
-/

namespace GeoFilter

open Translation (read)

/-! ### Starts -/

def Leads (leading : Bool) (ts : List Token) : Prop :=
  leading = true → ∀ token ∈ ts.head?, token.LeadsTest (Ensures.Called ts)

/-- Whether some tokens start with a word without quotes, which may start a test if that is asked for. -/
def StartsName (leading called : Bool) (text : String) (ts : List Token) : Prop :=
  ts.head? = some (.word text none) ∧ (leading = true → (Token.word text none).LeadsTest called)

theorem leads_false (ts : List Token) : Leads false ts := nofun

theorem Expression.Written.weaken {ofLiteral : Literal → Prop} {leading : Bool} {x : Expression}
    (h : x.Written ofLiteral leading) : x.Written ofLiteral false := by
  cases h with
  | property words free => exact .property words free nofun
  | literal compiled => exact .literal compiled
  | function word free _ hargs => exact .function word free nofun hargs
  | arithmetic hleft hright => exact .arithmetic hleft hright

/-- What is known of sound tokens: their words have no quotes, and the literals that are translated of them have some
property. -/
structure EnsuresLiterals (u : Setting) (sound : Token → Prop) (ofLiteral : Literal → Prop) : Prop where
  word : ∀ {text quote}, sound (.word text quote) → quote = none ∧ IsWord text
  number : ∀ {start}, Ensures sound start (Translation.signedLiteral u) fun v => ofLiteral (.number v)
  string : ∀ s, ofLiteral (.string s)
  boolean : ∀ b, ofLiteral (.boolean b)
  plain : ∀ {start} levels, Ensures sound start (Translation.plainGeometry u levels) fun x =>
    ∃ l : Literal, x = .literal l ∧ ofLiteral l
  srid : ∀ {start} levels, Ensures sound start (Translation.sridLiteral u levels) fun g => ofLiteral (.geometry g)
  envelope : ∀ {start}, Ensures sound start (Translation.envelope u) fun g => ofLiteral (.geometry g)

/-- Of unquoted words and finite numbers, literals are made as filters show them. -/
theorem ensuresLiterals_plain {u : Setting} (hecql : u.dialect = .ecql)
    (hknown : ∀ srid crs, u.kit.resolver srid = .ok crs → crs.IsKnown u.kit.resolver) :
    EnsuresLiterals u Token.IsPlain (Literal.Compiled u.kit.resolver) where
  word h := h
  number := ensures_signedLiteral.mono fun _ hv => hv.plain.1
  string _ := trivial
  boolean _ := trivial
  plain := ensures_plainGeometry
  srid := ensures_sridLiteral hknown hecql
  envelope := ensures_envelope hknown hecql

variable {u : Setting} {sound : Token → Prop} {ofLiteral : Literal → Prop} {start : List Token → Prop} {leading : Bool}
  {text : String}

/-! ### Attributes -/

section Names

variable (hword : ∀ {text quote}, sound (.word text quote) → quote = none ∧ IsWord text)

include hword

theorem plain_of_nameParts {more : List NamePart} (h : ∀ token ∈ more.flatMap NamePart.tokens, sound token) :
    ∀ part ∈ more, part.IsPlain := by
  intro part hpart
  have htokens : ∀ token ∈ part.tokens, sound token :=
    fun token htoken => h token (List.mem_flatMap.mpr ⟨part, hpart, htoken⟩)
  cases part with
  | point text quote => exact hword (htokens (.word text quote) (List.mem_cons_of_mem _ List.mem_cons_self))
  | colon text quote => exact hword (htokens (.word text quote) (List.mem_cons_of_mem _ List.mem_cons_self))

theorem ensures_attributeTail (first : SourceToken) :
    Ensures sound start (read (Translation.attributeTail first)) fun names =>
      ∃ more, names.map SourceToken.text = NamePart.segments first.text more ∧ ∀ part ∈ more, part.IsPlain := by
  intro input names rest hinput _ hread
  obtain ⟨more, htokens, htexts⟩ := attributeNames_sound first input
  have hnames : Grammar.attributeNames first input = (names, rest) := Except.ok.inj (Translation.read_eq_ok hread)
  have hsuffix := Translation.attributeNames_suffix first input
  rw [hnames] at htokens htexts hsuffix
  have hmore : ∀ token ∈ more.flatMap NamePart.tokens, sound token := by
    intro token htoken
    refine hinput token ?_
    rw [htokens]
    exact List.mem_append_left _ htoken
  exact ⟨⟨more, htexts, plain_of_nameParts hword hmore⟩, hinput.of_suffix hsuffix⟩

end Names

section Plain

variable (hu : u.IsPlain) (hliterals : EnsuresLiterals u sound ofLiteral)
  (hstart : ∀ ts, start ts → ts.head? = some (.word text none))

include hu hliterals hstart

theorem ensures_propertyName (hfree : (Token.word text none).truth? = none)
    (hleads : leading = true → (Token.word text none).LeadsTest false) :
    Ensures sound start (Translation.propertyName u) (Expression.Written ofLiteral leading) := by
  refine (Ensures.expectIf _ _).bind fun first hfirst => ?_
  obtain ⟨token, ts, htoken, hsound, _, hname⟩ := hfirst
  obtain rfl : token = .word text none := Option.some.inj (hstart _ htoken)
  refine (ensures_attributeTail hliterals.word first).bind fun names hnames => ?_
  obtain ⟨more, htexts, hmore⟩ := hnames
  have hproperty : u.kit.factory.property (names.map SourceToken.text) =
      .property ⟨NamePart.segments text more⟩ := by
    rw [hu.factory, htexts, hname]
    rfl
  rw [hproperty]
  exact .complete_ok _ _ (.property ⟨(hliterals.word hsound).2, more, rfl, hmore⟩ hfree hleads)

/-! ### Function calls -/

variable {inner? : Option (Translation Expression)}
  (hinner : ∀ inner, inner? = some inner →
    Ensures sound Anything inner (Expression.Written ofLiteral false))

omit hu hliterals hstart in
include hinner in
theorem ensures_argument :
    Ensures sound start (Translation.argument u inner?) (Expression.Written ofLiteral false) :=
  .here_bind fun token => (Ensures.nested hinner token).bind fun _ hx => .complete_ok _ _ hx

include hinner

theorem ensures_functionCall (hfree : ∀ keyword ∈ Keyword.ofText? text, keyword.isCallable = true)
    (hleads : leading = true → (Token.word text none).LeadsTest true) :
    Ensures sound start (Translation.functionCall u inner?) (Expression.Written ofLiteral leading) := by
  refine (Ensures.next _).bind fun name hname => ?_
  obtain ⟨token, ts, htoken, hsound, hname⟩ := hname
  obtain rfl : token = .word text none := Option.some.inj (hstart _ htoken)
  have hfunction : ∀ args, (∀ arg ∈ args, Expression.Written ofLiteral false arg) →
      Expression.Written ofLiteral leading (u.kit.factory.function name.text args) := by
    intro args hargs
    rw [hu.factory, hname]
    exact .function (hliterals.word hsound).2 hfree (fun h => .inr (hleads h)) hargs
  refine (Ensures.require _).bind fun _ _ => ?_
  refine (Ensures.complete_ok (Q := fun _ => True) _ _ trivial).bind fun _ _ => .acceptIf_bind (fun _ => ?_) ?_
  · exact .complete_ok _ _ (hfunction [] (List.forall_mem_nil _))
  · refine (Ensures.commaSeparated (ensures_argument hinner)).bind fun args hargs => ?_
    exact (Ensures.require _).bind fun _ _ => .complete_ok _ _ (hfunction _ hargs)

end Plain

/-! ### Operands -/

section Operand

variable (hu : u.IsPlain) (hliterals : EnsuresLiterals u sound ofLiteral)

include hu hliterals

variable {inner? : Option (Translation Expression)}
  (hinner : ∀ inner, inner? = some inner →
    Ensures sound Anything inner (Expression.Written ofLiteral false))

include hinner

theorem ensures_wordFactor (levels : Nat) :
    Ensures sound (fun ts => Leads leading ts ∧ ts.head? = some (.word text none))
      (Translation.wordFactor u levels inner? (Keyword.ofText? text))
      (Expression.Written ofLiteral leading) := by
  refine .parenFollows_bind fun called => Ensures.of_start ?_ fun ts hts =>
    (⟨hts.1.2, fun hleading => hts.2 ▸ hts.1.1 hleading _ hts.1.2⟩ : StartsName leading called text ts)
  refine .assume (fun _ _ hts => hts.2) fun hleads => ?_
  have hkeyword : (Token.word text none).keyword? = Keyword.ofText? text := rfl
  have hhead : ∀ ts, StartsName leading called text ts → ts.head? = some (.word text none) := fun _ hts => hts.1
  have hproperty : called ≠ true → (Token.word text none).truth? = none →
      Ensures sound (StartsName leading called text) (Translation.propertyName u)
        (Expression.Written ofLiteral leading) := by
    intro hcalled hfree
    exact ensures_propertyName hu hliterals hhead hfree (Bool.eq_false_iff.mpr hcalled ▸ hleads)
  have hcall : called = true → (∀ keyword ∈ Keyword.ofText? text, keyword.isCallable = true) →
      Ensures sound (StartsName leading called text) (Translation.functionCall u inner?)
        (Expression.Written ofLiteral leading) :=
    fun hcalled hcallable => ensures_functionCall hu hliterals hhead hinner hcallable (hcalled ▸ hleads)
  unfold Token.truth? at hproperty
  rw [hkeyword] at hproperty
  generalize Keyword.ofText? text = keyword? at hproperty hcall ⊢
  rcases keyword? with _ | keyword
  · dsimp only
    split
    case isTrue hcalled => exact hcall hcalled nofun
    case isFalse hcalled => exact hproperty hcalled rfl
  · have hcallable : keyword.isCallable = true → ∀ k ∈ some keyword, k.isCallable = true := by
      rintro h _ ⟨⟩
      exact h
    cases keyword with
    | TRUE => exact (Ensures.next _).bind fun _ _ => .complete_ok _ _ (.literal (hliterals.boolean _))
    | FALSE => exact (Ensures.next _).bind fun _ _ => .complete_ok _ _ (.literal (hliterals.boolean _))
    | SRID =>
      refine .peekSecond_bind fun second? => ?_
      split
      · exact (hliterals.srid levels).map fun _ hl => .literal hl
      · split
        case isTrue hcalled => exact hcall hcalled (hcallable rfl)
        case isFalse hcalled => exact hproperty hcalled rfl
    | ENVELOPE =>
      dsimp only
      split
      case isTrue => exact hliterals.envelope.map fun _ hl => .literal hl
      case isFalse hcalled => exact hproperty hcalled rfl
    | shape shape =>
      dsimp only
      split
      case isTrue =>
        refine (hliterals.plain levels).mono fun x hx => ?_
        obtain ⟨l, rfl, hl⟩ := hx
        exact .literal hl
      case isFalse hcalled => exact hproperty hcalled rfl
    | _ =>
      dsimp only
      split
      case isTrue hcalled => exact hcall hcalled (hcallable rfl)
      case isFalse hcalled => exact hproperty hcalled rfl

theorem ensures_factor (levels : Nat) :
    Ensures sound (Leads leading) (Translation.factor u levels inner?)
      (Expression.Written ofLiteral leading) := by
  refine .peek_bind fun token? => ?_
  split
  case h_1 => exact hliterals.number.map fun _ hv => .literal hv
  case h_2 => exact hliterals.number.map fun _ hv => .literal hv
  case h_3 =>
    -- a parenthesis leads no test
    refine .assume (P := leading = false) (fun input _ hts => ?_) fun hleading => ?_
    · refine Bool.eq_false_iff.mpr fun hleading => ?_
      have hleads := hts.1 hleading _ hts.2
      cases hleads.2.1
    · rw [hleading]
      exact (Ensures.next _).bind fun opener _ => (Ensures.nested hinner opener).bind fun x hx =>
        (Ensures.require _).map fun _ _ => hx
  case h_4 => exact (Ensures.next _).bind fun token _ => .complete_ok _ _ (.literal (hliterals.string _))
  case h_5 text quote =>
    refine .assume (P := quote = none) (fun input hinput hts => ?_) fun hquote => ?_
    · exact (hliterals.word (hinput _ (List.mem_of_mem_head? hts.2))).1
    · rw [hquote]
      exact ensures_wordFactor hu hliterals hinner levels
  case h_6 => exact .unexpected _

end Operand

/-! ### Sums and products -/

theorem written_grouped (hu : u.IsPlain) {x : Expression} {more : List (ArithmeticOp × Expression)}
    (hx : x.Written ofLiteral leading) (hmore : ∀ next ∈ more, next.2.Written ofLiteral false) :
    (Translation.grouped u x more).Written ofLiteral leading := by
  induction more generalizing x with
  | nil => exact hx
  | cons next more ih =>
    obtain ⟨hnext, hmore⟩ := List.forall_mem_cons.mp hmore
    have hpair : (u.kit.factory.arithmetic next.1 x next.2).Written ofLiteral leading := by
      rw [hu.factory]
      exact .arithmetic hx.weaken hnext
    exact ih hpair hmore

theorem ensures_leftGrouped (hu : u.IsPlain) {first second : Operator} {operand : Translation Expression}
    (hfirst : Ensures sound start operand (Expression.Written ofLiteral leading))
    (hnext : Ensures sound Anything operand (Expression.Written ofLiteral false)) :
    Ensures sound start
      (Translation.leftGrouped u (Grammar.acceptOperator first second) operand)
      (Expression.Written ofLiteral leading) := by
  have hitem : ∀ next, Ensures sound Anything (Translation.nextOperand u operand next)
      fun pair => pair.2.Written ofLiteral false :=
    fun (_, _) => hnext.bind fun y hy => .complete_ok _ _ hy
  exact hfirst.bind fun x hx => (Ensures.repeatAfter (.shortens (shortens_acceptOperator _ _)) hitem).map fun more hmore =>
    written_grouped hu hx hmore

theorem ensures_sumOf (hu : u.IsPlain) {operand : Translation Expression}
    (hfirst : Ensures sound start operand (Expression.Written ofLiteral leading))
    (hnext : Ensures sound Anything operand (Expression.Written ofLiteral false)) :
    Ensures sound start (Translation.sumOf u operand) (Expression.Written ofLiteral leading) :=
  ensures_leftGrouped hu (ensures_leftGrouped hu hfirst hnext) (ensures_leftGrouped hu hnext hnext)

theorem ensures_expression (hu : u.IsPlain) (hliterals : EnsuresLiterals u sound ofLiteral) (levels : Nat) :
    Ensures sound (Leads leading) (Translation.expression u levels)
      (Expression.Written ofLiteral leading) := by
  have hsum : ∀ {levels : Nat} {inner? : Option (Translation Expression)} {leading : Bool},
      (∀ inner, inner? = some inner →
        Ensures sound Anything inner (Expression.Written ofLiteral false)) →
      Ensures sound (Leads leading) (Translation.sumOf u (Translation.factor u levels inner?))
        (Expression.Written ofLiteral leading) := by
    intro levels inner? leading hinner
    have hnext : Ensures sound (Leads false) (Translation.factor u levels inner?)
        (Expression.Written ofLiteral false) := ensures_factor hu hliterals hinner levels
    exact ensures_sumOf hu (ensures_factor hu hliterals hinner levels) (hnext.of_start fun ts _ => leads_false ts)
  induction levels generalizing leading with
  | zero =>
    refine hsum ?_
    rintro _ ⟨⟩
  | succ levels ih =>
    refine hsum ?_
    rintro _ ⟨⟩
    exact ih.of_start fun ts _ => leads_false ts

end GeoFilter
