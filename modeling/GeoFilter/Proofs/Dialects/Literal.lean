import GeoFilter.Proofs.Comparison.Expression
import GeoFilter.Proofs.Numeral

/-!
# Literals in the two dialects

The base dialect reads the number of a reference system and the bounds of an ENVELOPE as results of their
own; the extended one keeps their tokens and reads them with the sign in front.  For numerals the two come to
the same, but for one thing: where the base dialect refuses a number behind a minus, it names the minus
alone.
-/

namespace GeoFilter

open Translation (complete read sign)

/-! ### Signed numbers -/

/-- The number of a signed token, and the token in front of it, as they stand among some lexemes. -/
inductive SignedIn (L : List Lexeme) : Option SourceToken × SourceToken → Prop
  | plain {number : Lexeme} (hmem : number ∈ L) (hnumber : Grammar.isNumber number.token = true) :
      SignedIn L (none, number.source)
  | negative {minus number : Lexeme} (hpair : [minus, number] <:+: L)
      (hminus : minus.token = .sign .minus) (hnumber : Grammar.isNumber number.token = true) :
      SignedIn L (some minus.source, number.source)

/-- What a signed number comes to as a number, read as an integer where one fits. -/
def signedValue? (n : Option SourceToken × SourceToken) : Option Number :=
  match n.1 with
  | none => Number.readIntegral? n.2.text
  | some _ => (Number.readIntegral? n.2.text).bind Number.negate?

theorem signedIn_of_signed {L input rest : List Lexeme} {n : Option SourceToken × SourceToken}
    (hinput : input <:+ L) (h : (Grammar.signed input).outcome = .ok (n, rest)) : SignedIn L n := by
  obtain ⟨minus?, mid, hminus, hrest⟩ := Phrase.outcome_bind_eq_ok h
  obtain ⟨token, _, hnumber, hpure⟩ := Phrase.outcome_bind_eq_ok hrest
  cases hpure
  obtain ⟨number, rfl, hsort, rfl⟩ := Phrase.expectIf_eq_ok hnumber
  rcases Phrase.acceptIf_eq_ok hminus with ⟨minus, rfl, hsign, rfl⟩ | ⟨rfl, rfl⟩
  · have hstart : [minus, number] <+: minus :: number :: rest := ⟨rest, rfl⟩
    exact .negative (hstart.isInfix.trans hinput.isInfix) (beq_iff_eq.mp hsign) hsort
  · exact .plain (hinput.subset List.mem_cons_self) hsort

def Numerals (L : List Lexeme) : Prop :=
  ∀ l ∈ L, ∀ text long, l.token = .number text long → Numeral text.toList

theorem Numerals.source {L : List Lexeme} (h : Numerals L) {l : Lexeme} (hmem : l ∈ L)
    (hnumber : Grammar.isNumber l.token = true) : Numeral l.source.text.toList := by
  cases htoken : l.token with
  | number text long =>
    rw [Lexeme.source, htoken]
    exact h l hmem text long htoken
  | _ =>
    rw [htoken] at hnumber
    cases hnumber

theorem Numerals.signed {L : List Lexeme} (h : Numerals L) {n : Option SourceToken × SourceToken}
    (hn : SignedIn L n) : Numeral n.2.text.toList := by
  cases hn with
  | plain hmem hnumber => exact h.source hmem hnumber
  | negative hpair _ hnumber => exact h.source (hpair.subset (by simp)) hnumber

theorem Numeral.value {text : String} (h : Numeral text.toList) :
    ∃ v v', Number.readIntegral? text = some v ∧ v.negate? = some v' := by
  by_cases hinteger : ∃ k, Number.readIntegral? text = some (.integer k)
  · obtain ⟨k, hk⟩ := hinteger
    obtain ⟨_, k', hk', _⟩ := h.integer hk
    exact ⟨_, _, hk, hk'⟩
  · obtain ⟨_, ⟨v, v', hv, hv', _⟩, _⟩ := h.not_integer fun k hk => hinteger ⟨k, hk⟩
    exact ⟨v, v', hv, hv'⟩

theorem Numeral.trimmed_withSign {n : Option SourceToken × SourceToken} (h : Numeral n.2.text.toList) :
    Text.trimmed (Grammar.withSign n).text = (Grammar.withSign n).text := by
  obtain ⟨_ | minus, token⟩ := n
  · exact h.trimmed_eq
  · exact h.trimmed_minus

variable {w : Comparison}

/-- A number that is completed on the left, and only its tokens are kept on the right. -/
theorem alike_readSigned (hnumerals : Numerals w.lexemes) (production : Production)
    {f : Number × Option SourceToken × SourceToken → Translation β}
    {g : Option SourceToken × SourceToken → Translation β}
    (hf : ∀ v n, SignedIn w.lexemes n → signedValue? n = some v → Alike w (f (v, n)) (g n)) :
    Alike w (Translation.signedNumber w.left production >>= f) (read Grammar.signed >>= g) := by
  unfold Translation.signedNumber
  simp only [Translation.bind_assoc, Translation.pure_bind]
  refine .read_bind_of shortens_signed (fun _ _ _ => signedIn_of_signed) fun n hn => ?_
  obtain ⟨v, v', hv, hv'⟩ := (hnumerals.signed hn).value
  have hread : numberOf Number.readIntegral? n.2 = .ok v := by
    rw [numberOf, hv]
    rfl
  rw [hread]
  refine .complete_left ?_
  rcases n with ⟨_ | minus, token⟩
  · exact hf v (none, token) hn hv
  · have hnegated : negated minus token v = .ok v' := by
      rw [negated, hv']
      rfl
    rw [sign, hnegated]
    refine .complete_left (hf v' (some minus, token) hn ?_)
    dsimp only at hv
    rw [signedValue?]
    dsimp only
    rw [hv]
    exact hv'

/-! ### Reference systems -/

/-- Whether two findings are the same up to how their tokens are written. -/
structure Finding.Matches (f f' : Finding) : Prop where
  fault : f.fault = f'.fault
  place : f.token.place = f'.token.place
  cause : f.cause = f'.cause

theorem Finding.Matches.refl (f : Finding) : f.Matches f := ⟨rfl, rfl, rfl⟩

/-- A minus among some lexemes with a number behind it that does not fit in 32 bits. -/
structure MinusAt (L : List Lexeme) (minus number : Lexeme) : Prop where
  pair : [minus, number] <:+: L
  isMinus : minus.token = .sign .minus
  isNumber : Grammar.isNumber number.token = true
  large : ∀ k, Number.readIntegral? number.token.text ≠ some (.integer k)

/-- What the extended dialect does where the base dialect names the minus alone: it names the number with its
sign, unless that is the least number of 32 bits. -/
def NamesNumber (minus number : Lexeme) (stop? : Option Stop) : Prop :=
  stop? = some (.finding (.invalidSrid (Grammar.signedToken minus.source number.source))) ∨
    Decimal.readInt? number.token.text = some 2147483648

/-- A comparison of the base dialect with the extended one. -/
structure Comparison.AcrossDialects (w : Comparison) : Prop where
  left : w.left.dialect = .cql
  right : w.right.dialect = .ecql
  numerals : Numerals w.lexemes
  allows_matching : ∀ f f' : Finding, f.Matches f' → w.allows (.finding f) (some (.finding f'))
  allows_minus : ∀ minus number stop?, MinusAt w.lexemes minus number → NamesNumber minus number stop? →
    w.allows (.finding (.invalidSrid minus.source)) stop?

theorem Comparison.AcrossDialects.allows_self (h : w.AcrossDialects) (f : Finding) :
    w.allows (.finding f) (some (.finding f)) :=
  h.allows_matching f f (.refl f)

/-- A number of a reference system qualifies a geometry alike at two tokens of one place. -/
theorem allowsValue_qualified (h : w.AcrossDialects) (resolver : CrsResolver) (g : Geometry)
    (srid : Int32) {token token' : SourceToken} (hplace : token.place = token'.place) :
    w.AllowsValue (qualified resolver g srid token) (qualified resolver g srid token') := by
  unfold qualified
  cases resolver srid with
  | ok crs => exact .refl fun f hf => by cases hf
  | error e =>
    refine ⟨fun literal hliteral => ?_, fun f hf => ?_⟩
    · cases hliteral
    · cases hf
      exact h.allows_matching _ _ ⟨rfl, hplace, rfl⟩

/-- A number without a sign qualifies a geometry in the same way in both dialects. -/
theorem qualifiedByNumber_plain {token : SourceToken} (hnumeral : Numeral token.text.toList) {v : Number}
    (hv : Number.readIntegral? token.text = some v) (resolver : CrsResolver) (g : Geometry) :
    qualifiedByNumber resolver g v token = qualifiedByToken resolver g token := by
  unfold qualifiedByToken
  rw [hnumeral.trimmed_eq]
  by_cases hinteger : ∃ k, v = .integer k
  · obtain ⟨k, rfl⟩ := hinteger
    rw [(hnumeral.integer hv).1]
    rfl
  · have hother : ∀ k, v ≠ .integer k := fun k hk => hinteger ⟨k, hk⟩
    rw [(hnumeral.not_integer fun k hk => hother k (Option.some.inj (hv.symm.trans hk))).1]
    cases v with
    | integer k => exact absurd rfl (hother k)
    | _ => rfl

theorem qualifiedByNumber_other {v : Number} (hv : ∀ k, v ≠ .integer k) (resolver : CrsResolver)
    (g : Geometry) (token : SourceToken) :
    qualifiedByNumber resolver g v token = .error (.invalidSrid token) := by
  cases v with
  | integer k => exact absurd rfl (hv k)
  | _ => rfl

theorem qualifiedByToken_signed {minus number : SourceToken} (hnumeral : Numeral number.text.toList)
    (resolver : CrsResolver) (g : Geometry) :
    qualifiedByToken resolver g (Grammar.signedToken minus number) =
      (Decimal.readInt32? ("-" ++ number.text)).elim
        (.error (.invalidSrid (Grammar.signedToken minus number)))
        fun srid => qualified resolver g srid (Grammar.signedToken minus number) := by
  have htext : (Grammar.signedToken minus number).text = "-" ++ number.text := rfl
  unfold qualifiedByToken
  rw [htext, hnumeral.trimmed_minus]
  cases Decimal.readInt32? ("-" ++ number.text) <;> rfl

/-- A number behind a minus qualifies a geometry alike in both dialects, or it does not fit in 32 bits. -/
theorem allowsValue_negative (h : w.AcrossDialects) {minus number : Lexeme}
    (hpair : [minus, number] <:+: w.lexemes) (hminus : minus.token = .sign .minus)
    (hnumber : Grammar.isNumber number.token = true) {v : Number}
    (hv : (Number.readIntegral? number.source.text).bind Number.negate? = some v)
    (resolver : CrsResolver) (g : Geometry) :
    w.AllowsValue (qualifiedByNumber resolver g v minus.source)
      (qualifiedByToken resolver g (Grammar.signedToken minus.source number.source)) := by
  have hnumeral : Numeral number.source.text.toList := h.numerals.source (hpair.subset (by simp)) hnumber
  rw [qualifiedByToken_signed hnumeral]
  by_cases hinteger : ∃ k, Number.readIntegral? number.source.text = some (.integer k)
  · obtain ⟨k, hk⟩ := hinteger
    obtain ⟨_, k', hnegate, hread⟩ := hnumeral.integer hk
    rw [hk, Option.bind_some, hnegate] at hv
    cases hv
    rw [hread]
    exact allowsValue_qualified h resolver g k' rfl
  · have hother : ∀ k, Number.readIntegral? number.source.text ≠ some (.integer k) :=
      fun k hk => hinteger ⟨k, hk⟩
    obtain ⟨_, ⟨v₀, v₁, hv₀, hv₁, _, hlarge⟩, hread⟩ := hnumeral.not_integer hother
    rw [hv₀, Option.bind_some, hv₁] at hv
    cases hv
    rw [qualifiedByNumber_other hlarge]
    refine ⟨fun literal hliteral => ?_, fun f hf => ?_⟩
    · cases hliteral
    · cases hf
      refine h.allows_minus minus number _ ⟨hpair, hminus, hnumber, hother⟩ ?_
      rcases hread with hnone | hleast
      · rw [hnone]
        exact .inl rfl
      · exact .inr hleast

/-- Wherever a number of a reference system stands, it qualifies a geometry in both dialects alike, or the
comparison allows for the difference. -/
theorem allowsValue_qualifiedByNumber (h : w.AcrossDialects) {n : Option SourceToken × SourceToken}
    (hn : SignedIn w.lexemes n) {v : Number} (hv : signedValue? n = some v) (resolver : CrsResolver)
    (g : Geometry) :
    w.AllowsValue (qualifiedByNumber resolver g v (n.1.getD n.2))
      (qualifiedByToken resolver g (Grammar.withSign n)) := by
  have hnumeral := h.numerals.signed hn
  cases hn with
  | plain =>
    have heq := qualifiedByNumber_plain hnumeral hv resolver g
    dsimp only at heq
    rw [Option.getD_none, Grammar.withSign, heq]
    exact .refl fun f _ => h.allows_self f
  | negative hpair hminus hnumber => exact allowsValue_negative h hpair hminus hnumber hv resolver g

theorem alike_sridLiteral (h : w.AcrossDialects) (levels : Nat) :
    Alike w (Translation.sridLiteral w.left levels) (Translation.sridLiteral w.right levels) := by
  unfold Translation.sridLiteral
  rw [h.left, h.right]
  refine .read_bind (.next _) fun keyword => .read_bind (.require _) fun _ => ?_
  refine alike_readSigned h.numerals .srid fun v n hn hv => ?_
  refine .read_bind (.require _) fun _ => (alike_geometryLiteral levels).bind fun g => ?_
  rw [w.kit_eq]
  exact .complete_of (allowsValue_qualifiedByNumber h hn hv w.left.kit.resolver g)

theorem alike_envelopeBound (h : w.AcrossDialects) :
    Alike w (Translation.envelopeBound w.left) (Translation.envelopeBound w.right) := by
  unfold Translation.envelopeBound
  rw [h.left, h.right]
  exact alike_readSigned h.numerals .envelopeComponent fun v n _ _ => .pure (Grammar.withSign n)

theorem alike_envelope (h : w.AcrossDialects) :
    Alike w (Translation.envelope w.left) (Translation.envelope w.right) := by
  refine .read_bind (.next _) fun keyword => .read_bind (.require _) fun _ => ?_
  refine (alike_envelopeBound h).bind fun west => .read_bind (.require _) fun _ => ?_
  refine (alike_envelopeBound h).bind fun east => .read_bind (.require _) fun _ => ?_
  refine (alike_envelopeBound h).bind fun north => .read_bind (.require _) fun _ => ?_
  refine (alike_envelopeBound h).bind fun south => ?_
  refine .read_bind shortens_referenceSystem fun code => .read_bind (.require _) fun _ => ?_
  rw [w.kit_eq]
  exact .complete_of (.refl fun f _ => h.allows_self f)

theorem Comparison.AcrossDialects.literalsAlike (h : w.AcrossDialects) : w.LiteralsAlike :=
  ⟨alike_sridLiteral h, alike_envelope h⟩

end GeoFilter
