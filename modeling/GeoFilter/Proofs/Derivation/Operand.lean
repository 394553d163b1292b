import GeoFilter.Proofs.Derivation.Grouping
import GeoFilter.Proofs.Keyword

/-!
# Reading operands

Numbers, texts, truth values, attributes, function calls and expressions in parentheses, each read by its first
tokens.
-/

namespace GeoFilter

open Translation (bind_of_ok bind_eq_ok read_of_ok read_eq_ok complete_eq_ok complete_of_permits)

variable {u : Setting} {input rest : List Lexeme} {r : List Token}

/-! ### Numbers -/

theorem signedLiteral_sound {v : Number} (h : Translation.signedLiteral u input = .ok (v, rest)) :
    ∃ n : SignedNumber, tokensOf input = n.tokens ++ tokensOf rest ∧ n.value = v := by
  obtain ⟨⟨minus?, number⟩, mid, hsigned, hbind⟩ := bind_eq_ok h
  obtain ⟨v', mid', hcomplete, hsign⟩ := bind_eq_ok hbind
  obtain ⟨_, hvalue, rfl⟩ := complete_eq_ok hcomplete
  have hread : Number.readLiteral? number.text = some v' := orFinding_eq_ok hvalue
  obtain ⟨rfl, hvalue'⟩ := Translation.sign_eq_ok hsign
  obtain ⟨minus?', mid'', hminus, hnumber⟩ := Phrase.outcome_bind_eq_ok (read_eq_ok hsigned)
  obtain ⟨number', _, hexpect, hpure⟩ := Phrase.outcome_bind_eq_ok hnumber
  cases hpure
  obtain ⟨⟨token, place⟩, rfl, hsort, rfl⟩ := Phrase.expectIf_eq_ok hexpect
  cases token with
  | number text long =>
    have hread' : Number.readLiteral? text = some v' := hread
    rcases Phrase.acceptIf_eq_ok hminus with ⟨⟨minus, place'⟩, rfl, hisMinus, rfl⟩ | ⟨rfl, rfl⟩
    · cases beq_iff_eq.mp hisMinus
      have hnegate : v'.negate? = some v := hvalue'
      exact ⟨⟨true, text, long, v, by rw [Number.readSigned?, if_pos rfl, hread']; exact hnegate⟩, rfl, rfl⟩
    · obtain rfl : v = v' := hvalue'
      exact ⟨⟨false, text, long, v, hread'⟩, rfl, rfl⟩
  | _ => cases hsort

/-- A signed number that stands next is read with its sign, and its value is that of its text with the sign. -/
theorem signed_complete (hpermits : ∀ red, u.permits red = true) (n : SignedNumber)
    (h : tokensOf input = n.tokens ++ r) :
    ∃ minus? token v rest, (Grammar.signed input).outcome = .ok ((minus?, token), rest) ∧
      (Grammar.withSign (minus?, token)).text = n.signedText ∧ numberOf Number.readLiteral? token = .ok v ∧
      Translation.sign u minus? token v rest = .ok (n.value, rest) ∧ tokensOf rest = r := by
  rcases n with ⟨negative, text, long, value, hreads⟩
  have hnumber : ∀ {place v}, Number.readLiteral? text = some v →
      numberOf Number.readLiteral? ⟨text, place⟩ = .ok v := by
    intro place v hread
    rw [numberOf, hread]
    rfl
  cases negative with
  | false =>
    obtain ⟨place, rest, rfl, hrest⟩ := tokensOf_eq_cons h
    exact ⟨none, ⟨text, place⟩, value, rest, rfl, rfl, hnumber hreads, rfl, hrest⟩
  | true =>
    obtain ⟨place, mid, rfl, hmid⟩ := tokensOf_eq_cons h
    obtain ⟨place', rest, rfl, hrest⟩ := tokensOf_eq_cons hmid
    obtain ⟨v, hread, hnegate⟩ := Option.bind_eq_some_iff.mp hreads
    have hnegated : negated ⟨"-", place⟩ ⟨text, place'⟩ v = .ok value := by
      rw [negated, hnegate]
      rfl
    refine ⟨some ⟨"-", place⟩, ⟨text, place'⟩, v, rest, rfl, rfl, hnumber hread, ?_, hrest⟩
    rw [Translation.sign, hnegated]
    exact complete_of_permits (hpermits _) _ _

theorem signedLiteral_complete (hu : u.IsPlain) (n : SignedNumber) (h : tokensOf input = n.tokens ++ r) :
    ∃ rest, Translation.signedLiteral u input = .ok (n.value, rest) ∧ tokensOf rest = r := by
  obtain ⟨minus?, token, v, rest, hsigned, _, hnumber, hsign, hrest⟩ := signed_complete hu.permits n h
  refine ⟨rest, ?_, hrest⟩
  rw [Translation.signedLiteral, bind_of_ok (read_of_ok hsigned), hnumber,
    bind_of_ok (complete_of_permits (hu.permits _) _ _)]
  exact hsign

/-! ### Attributes -/

theorem attributeNames_sound (current : SourceToken) (input : List Lexeme) :
    ∃ more, tokensOf input = more.flatMap NamePart.tokens ++ tokensOf (Grammar.attributeNames current input).2 ∧
      (Grammar.attributeNames current input).1.map SourceToken.text = NamePart.segments current.text more := by
  fun_induction Grammar.attributeNames current input
  case case1 current _ text quote place rest names rest' hread ih =>
    obtain ⟨more, htokens, hnames⟩ := ih
    rw [hread] at htokens hnames
    refine ⟨.point text quote :: more, ?_, ?_⟩
    · rw [List.flatMap_cons]
      exact congrArg ([Token.sign .period, .word text quote] ++ ·) htokens
    · exact congrArg (current.text :: ·) hnames
  case case2 current _ text quote _ rest ih =>
    obtain ⟨more, htokens, hnames⟩ := ih
    refine ⟨.colon text quote :: more, ?_, hnames⟩
    rw [List.flatMap_cons]
    exact congrArg ([Token.sign .colon, .word text quote] ++ ·) htokens
  case case3 => exact ⟨[], rfl, rfl⟩

theorem attributeNames_of_followed {closers : List Sign} (hperiod : .period ∉ closers)
    (hcolon : .colon ∉ closers) (h : Followed closers (tokensOf input)) (current : SourceToken) :
    Grammar.attributeNames current input = ([current], input) := by
  rcases input with _ | ⟨⟨token, place⟩, input⟩
  · rfl
  · obtain ⟨sign, hsign, rfl⟩ := h _ _ rfl
    cases sign with
    | period => exact absurd hsign hperiod
    | colon => exact absurd hsign hcolon
    | _ => rfl

/-- The names of an attribute are read to their end, if an attribute ends at what follows. -/
theorem attributeNames_complete
    (hend : ∀ input current, tokensOf input = r → Grammar.attributeNames current input = ([current], input))
    {more : List NamePart} (h : tokensOf input = more.flatMap NamePart.tokens ++ r) (current : SourceToken) :
    ∃ names rest, Grammar.attributeNames current input = (names, rest) ∧
      names.map SourceToken.text = NamePart.segments current.text more ∧ tokensOf rest = r := by
  induction more generalizing input current with
  | nil => exact ⟨_, _, hend input current h, rfl, h⟩
  | cons part more ih =>
    rw [List.flatMap_cons, List.append_assoc] at h
    cases part with
    | point text quote =>
      obtain ⟨_, mid, rfl, hmid⟩ := tokensOf_eq_cons h
      obtain ⟨place, mid', rfl, hmid'⟩ := tokensOf_eq_cons hmid
      obtain ⟨names, rest, hnames, htexts, hrest⟩ := ih hmid' ⟨text, place⟩
      refine ⟨current :: names, rest, ?_, congrArg (current.text :: ·) htexts, hrest⟩
      rw [Grammar.attributeNames, hnames]
    | colon text quote =>
      obtain ⟨_, mid, rfl, hmid⟩ := tokensOf_eq_cons h
      obtain ⟨place, mid', rfl, hmid'⟩ := tokensOf_eq_cons hmid
      exact ih hmid' ⟨current.text ++ ":" ++ text, current.place⟩

theorem propertyName_sound {text : String} {quote : Option Char} {place : Place} {x : Expression}
    (hu : u.IsPlain) (h : Translation.propertyName u (⟨.word text quote, place⟩ :: input) = .ok (x, rest)) :
    ∃ more, tokensOf input = more.flatMap NamePart.tokens ++ tokensOf rest ∧
      x = .property ⟨NamePart.segments text more⟩ := by
  obtain ⟨first, mid, hfirst, h⟩ := bind_eq_ok h
  cases read_eq_ok hfirst
  obtain ⟨names, mid', htail, h⟩ := bind_eq_ok h
  have hnames : Grammar.attributeNames ⟨text, place⟩ input = (names, mid') := Except.ok.inj (read_eq_ok htail)
  obtain ⟨_, hvalue, rfl⟩ := complete_eq_ok h
  obtain ⟨more, htokens, htexts⟩ := attributeNames_sound ⟨text, place⟩ input
  rw [hnames] at htokens htexts
  cases hvalue
  refine ⟨more, htokens, ?_⟩
  rw [hu.factory, htexts]
  rfl

theorem propertyName_complete (hpermits : ∀ red, u.permits red = true)
    (hend : ∀ input current, tokensOf input = r → Grammar.attributeNames current input = ([current], input))
    {more : List NamePart} (h : tokensOf input = more.flatMap NamePart.tokens ++ r) (text : String)
    (quote : Option Char) (place : Place) :
    ∃ rest, Translation.propertyName u (⟨.word text quote, place⟩ :: input) =
      .ok (u.kit.factory.property (NamePart.segments text more), rest) ∧ tokensOf rest = r := by
  obtain ⟨names, rest, hnames, htexts, hrest⟩ := attributeNames_complete hend h ⟨text, place⟩
  refine ⟨rest, ?_, hrest⟩
  have hfirst : (Phrase.expectIf Grammar.isAnyWord "an attribute" (⟨.word text quote, place⟩ :: input)).outcome =
      .ok (⟨text, place⟩, input) := rfl
  have htail : (Translation.attributeTail ⟨text, place⟩ input).outcome = .ok (names, rest) :=
    congrArg Except.ok hnames
  unfold Translation.propertyName
  rw [bind_of_ok (read_of_ok hfirst), bind_of_ok (read_of_ok htail), complete_of_permits (hpermits _), htexts]

end GeoFilter
