import GeoFilter.Proofs.Dialects.Literal
import GeoFilter.Proofs.Translation.Predicate

/-!
# Operands in the two dialects

Where the base dialect wants an attribute or a geometry literal, the extended one reads any expression.  An
expression that starts like one of them may go on behind it, but only at a sign that the base dialect never
allows there: where a predicate of the base dialect goes on, the expression is the attribute or the literal.
The exceptions are attributes that start with a word which starts another expression.
-/

namespace GeoFilter

open Translation (read)

/-! ### The extended dialect beside the base dialect -/

/-- Whether a word starts an expression other than an attribute even if no parenthesis follows. -/
def Keyword.isReserved : Keyword → Bool
  | .TRUE | .FALSE | .SRID => true
  | _ => false

def Token.isReserved (token : Token) : Bool :=
  token.keyword?.any Keyword.isReserved

/-- Whether a reduction is that of an attribute which starts with a reserved word of some lexemes. -/
def Reduction.isReservedAttribute (L : List Lexeme) (r : Reduction) : Bool :=
  r.production == .propertyName &&
    L.any fun l => l.token.isReserved && r.tokens.head?.any fun token => token.place == l.place

/-- The base dialect without attributes that start with a reserved word. -/
def unreservedBase (L : List Lexeme) (resolver : CrsResolver) : Setting :=
  ⟨.cql, ⟨.plain, resolver⟩, fun r => !r.isReservedAttribute L⟩

/-- The base dialect without some attributes beside the extended one: whatever it makes, the extended dialect
makes, too. -/
def extension (L : List Lexeme) (resolver : CrsResolver) : Comparison where
  lexemes := L
  left := unreservedBase L resolver
  right := ⟨.ecql, ⟨.plain, resolver⟩, fun _ => true⟩
  allows _ _ := True
  kit_eq := rfl
  permits _ := rfl
  allows_of_none _ _ _ := trivial
  allows_fault _ := trivial
  allows_finding _ _ := trivial
  allows_refused _ _ _ := trivial

variable {L : List Lexeme} {resolver : CrsResolver}

theorem extension_across (hnumerals : Numerals L) : (extension L resolver).AcrossDialects where
  left := rfl
  right := rfl
  numerals := hnumerals
  allows_matching _ _ _ := trivial
  allows_minus _ _ _ _ _ := trivial

theorem related_of_ok {said said' : Except Stop (α × List Lexeme)}
    (h : ∀ a rest, said = .ok (a, rest) → said' = .ok (a, rest) ∧ rest <:+ L) :
    Related (extension L resolver) said said' := by
  rcases said with stop | ⟨a, rest⟩
  · exact .stop trivial
  · obtain ⟨rfl, hrest⟩ := h a rest rfl
    exact .value hrest

theorem eq_ok_of_alike {c c' : Translation α} {input rest : List Lexeme} {a : α}
    (halike : Alike (extension L resolver) c c') (hinput : input <:+ L) (h : c input = .ok (a, rest)) :
    c' input = .ok (a, rest) ∧ rest <:+ L := by
  have hrelated := halike input hinput
  rw [h] at hrelated
  generalize c' input = said at hrelated
  cases hrelated with
  | value hrest => exact ⟨rfl, hrest⟩

/-! ### Signs behind operands -/

/-- Whether an expression that is an attribute so far may go on at a sign. -/
def Sign.continues : Sign → Bool
  | .leftParen | .plus | .minus | .star | .slash => true
  | _ => false

def Continued (input : List Lexeme) : Prop :=
  ∃ sign place rest, input = ⟨.sign sign, place⟩ :: rest ∧ sign.continues = true

theorem accept_of_not_continued {input : List Lexeme} (h : ¬Continued input) {sign : Sign}
    (hsign : sign.continues = true) : (Phrase.accept sign input).outcome = .ok (none, input) :=
  Phrase.accept_of_ne fun place rest hinput => h ⟨sign, place, rest, hinput, hsign⟩

/-- A translation that makes no value of lexemes at which an expression goes on. -/
def StopsAtSigns (c : Translation α) : Prop :=
  ∀ input, Continued input → ∀ x, c input ≠ .ok x

namespace StopsAtSigns

theorem bind {c : Translation α} (h : StopsAtSigns c) (f : α → Translation β) :
    StopsAtSigns (c >>= f) := by
  rintro input hinput ⟨b, rest⟩ hb
  obtain ⟨a, mid, ha, _⟩ := Translation.bind_eq_ok hb
  exact h input hinput _ ha

theorem require {sign : Sign} (h : sign.continues = false) :
    StopsAtSigns (read (Phrase.require sign)) := by
  rintro input ⟨sign', place, rest, rfl, hsign'⟩ ⟨b, mid⟩ hb
  obtain ⟨place', heq⟩ := Phrase.require_eq_ok (Translation.read_eq_ok hb)
  cases heq
  rw [h] at hsign'
  cases hsign'

end StopsAtSigns

/-! ### Attributes -/

namespace Translation

variable {u : Setting} {levels : Nat} {input rest : List Lexeme} {x : Expression}

theorem leftGrouped_of_operand {operators : Phrase (Option (SourceToken × ArithmeticOp))}
    {operand : Translation Expression} (hx : operand input = .ok (x, rest))
    (hstop : (operators rest).outcome = .ok (none, rest)) :
    leftGrouped u operators operand input = .ok (x, rest) := by
  unfold leftGrouped
  rw [bind_of_ok hx, bind_of_ok (repeatAfter_of_none hstop _)]
  rfl

theorem acceptOperator_of_none {first second : Sign × ArithmeticOp}
    (hfirst : (Phrase.accept first.1 input).outcome = .ok (none, input))
    (hsecond : (Phrase.accept second.1 input).outcome = .ok (none, input)) :
    (Grammar.acceptOperator first second input).outcome = .ok (none, input) := by
  unfold Grammar.acceptOperator
  rw [Phrase.outcome_bind, hfirst]
  dsimp only
  rw [Phrase.outcome_bind, hsecond]
  rfl

theorem sumOf_of_operand {operand : Translation Expression} (hx : operand input = .ok (x, rest))
    (hrest : ¬Continued rest) : sumOf u operand input = .ok (x, rest) := by
  have hnone {first second : Sign × ArithmeticOp} (hfirst : first.1.continues = true)
      (hsecond : second.1.continues = true) :
      (Grammar.acceptOperator first second rest).outcome = .ok (none, rest) :=
    acceptOperator_of_none (accept_of_not_continued hrest hfirst) (accept_of_not_continued hrest hsecond)
  exact leftGrouped_of_operand (leftGrouped_of_operand hx (hnone rfl rfl)) (hnone rfl rfl)

theorem expression_of_factor (hx : ∀ inner?, factor u levels inner? input = .ok (x, rest))
    (hrest : ¬Continued rest) : expression u levels input = .ok (x, rest) := by
  cases levels with
  | zero => exact sumOf_of_operand (hx _) hrest
  | succ levels => exact sumOf_of_operand (hx _) hrest

theorem propertyName_eq_ok (h : propertyName u input = .ok (x, rest)) :
    ∃ l mid, input = l :: mid ∧ Grammar.isAnyWord l.token = true ∧
      u.permits ⟨.propertyName, (Grammar.attributeNames l.source mid).1⟩ = true ∧
      rest = (Grammar.attributeNames l.source mid).2 := by
  obtain ⟨first, mid, hfirst, h⟩ := bind_eq_ok h
  obtain ⟨l, rfl, hsort, rfl⟩ := Phrase.expectIf_eq_ok (read_eq_ok hfirst)
  obtain ⟨names, mid', htail, h⟩ := bind_eq_ok h
  have hnames : Grammar.attributeNames l.source mid = (names, mid') := Except.ok.inj (read_eq_ok htail)
  obtain ⟨hpermits, _, rfl⟩ := complete_eq_ok h
  exact ⟨l, mid, rfl, hsort, by rw [hnames]; exact hpermits, by rw [hnames]⟩

theorem factor_of_attribute {l : Lexeme} {mid : List Lexeme} (hword : Grammar.isAnyWord l.token = true)
    (hfree : l.token.isReserved = false) (hmid : ¬Continued mid) (inner? : Option (Translation Expression)) :
    factor u levels inner? (l :: mid) = propertyName u (l :: mid) := by
  rcases l with ⟨token, place⟩
  cases token with
  | word text quote =>
    have hcalled : read Grammar.parenFollows (⟨.word text quote, place⟩ :: mid) =
        .ok (false, ⟨.word text quote, place⟩ :: mid) := by
      rcases mid with _ | ⟨⟨token, place'⟩, mid⟩
      · rfl
      · have hne : (some token == some (.sign .leftParen)) = false := by
          rw [beq_eq_false_iff_ne]
          rintro heq
          cases heq
          exact hmid ⟨.leftParen, place', mid, rfl, rfl⟩
        refine read_of_ok ?_
        change Except.ok (some token == some (.sign .leftParen), _) = _
        rw [hne]
    change wordFactor u levels inner? (Token.word text quote).keyword? _ = _
    rw [wordFactor, bind_of_ok hcalled]
    unfold Token.isReserved at hfree
    dsimp only at hfree
    generalize (Token.word text quote).keyword? = keyword? at hfree
    cases keyword? with
    | none => rfl
    | some keyword =>
      cases keyword with
      | TRUE | FALSE | SRID => cases hfree
      | _ => rfl
  | _ => cases hword

end Translation

theorem continued_of_attributeNames {current : SourceToken} {mid : List Lexeme} (h : Continued mid) :
    (Grammar.attributeNames current mid).2 = mid := by
  obtain ⟨sign, place, rest, rfl, hsign⟩ := h
  cases sign with
  | leftParen | plus | minus | star | slash => rfl
  | _ => cases hsign

/-- An attribute of the base dialect is an expression, if it does not start with a reserved word and no
expression goes on behind it. -/
theorem expression_of_attribute {input rest : List Lexeme} {x : Expression} (levels : Nat)
    (hinput : input <:+ L) (h : Translation.propertyName (unreservedBase L resolver) input = .ok (x, rest))
    (hrest : ¬Continued rest) :
    Translation.expression (extension L resolver).right levels input = .ok (x, rest) := by
  have hright : Translation.propertyName (extension L resolver).right input = .ok (x, rest) :=
    (eq_ok_of_alike alike_propertyName hinput h).1
  obtain ⟨l, mid, rfl, hword, hpermits, hnames⟩ := Translation.propertyName_eq_ok h
  have hfree : l.token.isReserved = false := by
    refine Bool.eq_false_iff.mpr fun hreserved => ?_
    obtain ⟨text, names, hhead⟩ := Translation.attributeNames_head l.source mid
    have hl : l ∈ L := hinput.subset List.mem_cons_self
    have hany : (⟨.propertyName, (Grammar.attributeNames l.source mid).1⟩ : Reduction).isReservedAttribute L =
        true := by
      unfold Reduction.isReservedAttribute
      rw [hhead, Bool.and_eq_true, List.any_eq_true]
      exact ⟨rfl, l, hl, by simpa [Lexeme.source] using hreserved⟩
    have hnot : (!Reduction.isReservedAttribute L _) = true := hpermits
    rw [hany] at hnot
    cases hnot
  have hmid : ¬Continued mid := by
    intro hmid
    rw [continued_of_attributeNames hmid] at hnames
    rw [hnames] at hrest
    exact hrest hmid
  refine Translation.expression_of_factor (fun inner? => ?_) hrest
  rw [Translation.factor_of_attribute hword hfree hmid inner?]
  exact hright

/-! ### Geometry literals -/

/-- A translation that makes a value only of lexemes which start with a parenthesis. -/
def OpensParen (c : Translation α) : Prop :=
  ∀ input x, c input = .ok x → ∃ place mid, input = ⟨.sign .leftParen, place⟩ :: mid

namespace OpensParen

variable {u : Setting}

theorem bind {c : Translation α} (h : OpensParen c) (f : α → Translation β) : OpensParen (c >>= f) := by
  rintro input ⟨b, rest⟩ hb
  obtain ⟨a, mid, ha, _⟩ := Translation.bind_eq_ok hb
  exact h input _ ha

theorem complete_bind {production : Production} {tokens : List SourceToken} {value : Except Finding α}
    {f : α → Translation β} (h : ∀ a, OpensParen (f a)) :
    OpensParen (Translation.complete u production tokens value >>= f) := by
  rintro input ⟨b, rest⟩ hbind
  obtain ⟨a, mid, ha, hb⟩ := Translation.bind_eq_ok hbind
  obtain ⟨_, _, rfl⟩ := Translation.complete_eq_ok ha
  exact h a _ _ hb

theorem require : OpensParen (read (Phrase.require .leftParen)) := by
  rintro input ⟨b, rest⟩ hb
  obtain ⟨place, rfl⟩ := Phrase.require_eq_ok (Translation.read_eq_ok hb)
  exact ⟨place, rest, rfl⟩

theorem parenthesized (c : Translation α) : OpensParen (Translation.parenthesized c) :=
  require.bind _

theorem shapeBody (member? : Option (Translation Geometry)) (role : GeometryRole) (token : SourceToken)
    (shape : Shape) : OpensParen (Translation.shapeBody u member? role token shape) := by
  cases shape with
  | point | multiPoint | multiLineString | multiPolygon => exact (parenthesized _).bind _
  | lineString | polygon => exact ((parenthesized _).bind _).bind _
  | collection => exact complete_bind fun _ => (parenthesized _).bind _

end OpensParen

namespace Translation

variable {u : Setting} {levels : Nat} {l : Lexeme} {mid rest : List Lexeme}

theorem sridLiteral_opens {g : GeometryLiteral} (h : sridLiteral u levels (l :: mid) = .ok (g, rest)) :
    ∃ place mid', mid = ⟨.sign .equal, place⟩ :: mid' := by
  obtain ⟨keyword, _, hnext, h⟩ := bind_eq_ok h
  cases read_eq_ok hnext
  obtain ⟨_, mid', hequal, _⟩ := bind_eq_ok h
  obtain ⟨place, rfl⟩ := Phrase.require_eq_ok (read_eq_ok hequal)
  exact ⟨place, mid', rfl⟩

theorem envelope_opens {g : GeometryLiteral} (h : envelope u (l :: mid) = .ok (g, rest)) :
    ∃ place mid', mid = ⟨.sign .leftParen, place⟩ :: mid' := by
  obtain ⟨keyword, _, hnext, h⟩ := bind_eq_ok h
  cases read_eq_ok hnext
  exact OpensParen.require.bind _ mid _ h

theorem shapeText_opens {member? : Option (Translation Geometry)} {role : GeometryRole} {g : Geometry}
    (h : shapeText u member? role (l :: mid) = .ok (g, rest)) :
    ∃ place mid', mid = ⟨.sign .leftParen, place⟩ :: mid' := by
  obtain ⟨token?, _, hpeek, h⟩ := bind_eq_ok h
  cases read_eq_ok hpeek
  simp only [List.head?_cons, Option.map_some, Option.bind_some] at h
  generalize l.token.keyword? = keyword? at h
  cases keyword? with
  | none => cases read_eq_ok h
  | some keyword =>
    cases keyword with
    | shape shape =>
      obtain ⟨token, _, hnext, h⟩ := bind_eq_ok h
      cases read_eq_ok hnext
      exact OpensParen.shapeBody _ _ _ _ mid _ h
    | _ => cases read_eq_ok h

theorem geometryLiteral_opens {g : Geometry} (h : geometryLiteral u levels (l :: mid) = .ok (g, rest)) :
    ∃ place mid', mid = ⟨.sign .leftParen, place⟩ :: mid' := by
  obtain ⟨keyword, _, hhere, h⟩ := bind_eq_ok h
  cases read_eq_ok hhere
  obtain ⟨g', _, htext, _⟩ := bind_eq_ok h
  cases levels with
  | zero => exact shapeText_opens htext
  | succ levels => exact shapeText_opens htext

end Translation

theorem factor_of_keyword {u : Setting} {levels : Nat} {l : Lexeme} {keyword : Keyword}
    (hkeyword : l.token.keyword? = some keyword) (inner? : Option (Translation Expression))
    (mid : List Lexeme) :
    Translation.factor u levels inner? (l :: mid) =
      Translation.wordFactor u levels inner? (some keyword) (l :: mid) := by
  rcases l with ⟨token, place⟩
  cases token with
  | word text quote =>
    rw [← hkeyword]
    rfl
  | _ => cases hkeyword

theorem factor_of_geometry {input rest : List Lexeme} {x : Expression} {levels : Nat}
    (hnumerals : Numerals L) (hinput : input <:+ L)
    (h : Translation.geometryOperand (unreservedBase L resolver) levels input = .ok (x, rest))
    (inner? : Option (Translation Expression)) :
    Translation.factor (extension L resolver).right levels inner? input = .ok (x, rest) ∧ rest <:+ L := by
  have hw : (extension L resolver).LiteralsAlike := (extension_across hnumerals).literalsAlike
  obtain ⟨token?, _, hpeek, h⟩ := Translation.bind_eq_ok h
  cases Translation.read_eq_ok hpeek
  rcases input with _ | ⟨l, mid⟩
  · cases Translation.read_eq_ok h
  simp only [List.head?_cons, Option.map_some, Option.bind_some] at h
  cases hkeyword : l.token.keyword? with
  | none =>
    rw [hkeyword] at h
    cases Translation.read_eq_ok h
  | some keyword =>
    rw [hkeyword] at h
    rw [factor_of_keyword hkeyword]
    cases keyword with
    | SRID =>
      obtain ⟨g, _, hg, _⟩ := Translation.bind_eq_ok h
      obtain ⟨place, mid', rfl⟩ := Translation.sridLiteral_opens hg
      have hsrid : Alike (extension L resolver) (Translation.ofGeometry _) (Translation.ofGeometry _) :=
        (hw.srid levels).map
      have hsaid := eq_ok_of_alike hsrid hinput h
      exact hsaid
    | ENVELOPE =>
      obtain ⟨g, _, hg, _⟩ := Translation.bind_eq_ok h
      obtain ⟨place, mid', rfl⟩ := Translation.envelope_opens hg
      have henvelope : Alike (extension L resolver) (Translation.ofGeometry _) (Translation.ofGeometry _) :=
        hw.envelope.map
      have hsaid := eq_ok_of_alike henvelope hinput h
      exact hsaid
    | shape shape =>
      obtain ⟨g, _, hg, _⟩ := Translation.bind_eq_ok h
      obtain ⟨place, mid', rfl⟩ := Translation.geometryLiteral_opens hg
      have hplain := alike_plainGeometry (w := extension L resolver) levels
      have hsaid := eq_ok_of_alike hplain hinput h
      exact hsaid
    | _ => cases Translation.read_eq_ok h

/-! ### Operands and what follows them -/

/-- An operand of the base dialect beside an expression of the extended one: they come to the same, if what
follows them stops where an expression goes on. -/
theorem alike_followed {c c' : Translation Expression} {k k' : Expression → Translation β}
    (hc : ∀ input x rest, input <:+ L → c input = .ok (x, rest) →
      rest <:+ L ∧ (¬Continued rest → c' input = .ok (x, rest)))
    (hstops : ∀ x, StopsAtSigns (k x)) (hk : ∀ x, Alike (extension L resolver) (k x) (k' x)) :
    Alike (extension L resolver) (c >>= k) (c' >>= k') := by
  intro input hinput
  refine related_of_ok fun b rest hb => ?_
  obtain ⟨x, mid, hx, hb⟩ := Translation.bind_eq_ok hb
  obtain ⟨hmid, hc'⟩ := hc input x mid hinput hx
  have hfollow : ¬Continued mid := fun hcontinued => hstops x mid hcontinued _ hb
  rw [Translation.bind_of_ok (hc' hfollow)]
  exact eq_ok_of_alike (hk x) hmid hb

theorem alike_operand_bind {k k' : Expression → Translation β} (levels : Nat)
    (hstops : ∀ x, StopsAtSigns (k x)) (hk : ∀ x, Alike (extension L resolver) (k x) (k' x)) :
    Alike (extension L resolver) (Translation.operand (extension L resolver).left levels >>= k)
      (Translation.operand (extension L resolver).right levels >>= k') :=
  alike_followed (fun _ _ _ hinput hx =>
    ⟨(eq_ok_of_alike (alike_propertyName (w := extension L resolver)) hinput hx).2,
      expression_of_attribute levels hinput hx⟩) hstops hk

theorem alike_geometryOperand_bind {k k' : Expression → Translation β} (hnumerals : Numerals L)
    (levels : Nat) (hstops : ∀ x, StopsAtSigns (k x)) (hk : ∀ x, Alike (extension L resolver) (k x) (k' x)) :
    Alike (extension L resolver) (Translation.geometryOperand (extension L resolver).left levels >>= k)
      (Translation.geometryOperand (extension L resolver).right levels >>= k') :=
  alike_followed (fun _ _ _ hinput hx => ⟨(factor_of_geometry hnumerals hinput hx none).2,
    Translation.expression_of_factor fun inner? => (factor_of_geometry hnumerals hinput hx inner?).1⟩) hstops hk

end GeoFilter
