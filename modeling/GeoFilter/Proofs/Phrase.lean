import GeoFilter.Phrase

/-!
# What phrases read

How the outcomes of phrases come about, and two properties that all phrases of the grammar inherit from their
parts: a phrase that completes nothing is `Quiet`, and what a phrase leaves to be read is an end of what it
was given (`Shortens`).
-/

namespace GeoFilter

/-! ### Outcomes -/

namespace Phrase

theorem outcome_bind (p : Phrase α) (f : α → Phrase β) (input : List Lexeme) :
    ((p >>= f) input).outcome =
      match (p input).outcome with
      | .ok (a, rest) => (f a rest).outcome
      | .error fault => .error fault := by
  change (Phrase.bind p f input).outcome = _
  unfold Phrase.bind
  rcases p input with ⟨done, fault | ⟨a, rest⟩⟩ <;> rfl

theorem outcome_bind_eq_ok {p : Phrase α} {f : α → Phrase β} {input rest : List Lexeme} {b : β}
    (h : ((p >>= f) input).outcome = .ok (b, rest)) :
    ∃ a mid, (p input).outcome = .ok (a, mid) ∧ (f a mid).outcome = .ok (b, rest) := by
  rw [outcome_bind] at h
  split at h
  case h_1 a mid hp => exact ⟨a, mid, hp, h⟩
  case h_2 => cases h

theorem acceptIf_eq_ok {sort : Token → Bool} {input rest : List Lexeme} {token? : Option SourceToken}
    (h : (acceptIf sort input).outcome = .ok (token?, rest)) :
    (∃ l, input = l :: rest ∧ sort l.token = true ∧ token? = some l.source) ∨
      rest = input ∧ token? = none := by
  rcases input with _ | ⟨l, input⟩
  · cases h
    exact .inr ⟨rfl, rfl⟩
  · unfold acceptIf at h
    dsimp only at h
    split at h
    case isTrue hsort =>
      cases h
      exact .inl ⟨l, rfl, hsort, rfl⟩
    case isFalse =>
      cases h
      exact .inr ⟨rfl, rfl⟩

theorem accept_of_ne {sign : Sign} {input : List Lexeme}
    (h : ∀ place rest, input ≠ ⟨.sign sign, place⟩ :: rest) :
    (accept sign input).outcome = .ok (none, input) := by
  rcases input with _ | ⟨⟨token, place⟩, input⟩
  · rfl
  · have hne : (token == .sign sign) = false := by
      rw [beq_eq_false_iff_ne]
      rintro rfl
      exact h place input rfl
    simp [accept, acceptIf, hne]

theorem expectIf_eq_ok {sort : Token → Bool} {expected : String} {input rest : List Lexeme}
    {token : SourceToken} (h : (expectIf sort expected input).outcome = .ok (token, rest)) :
    ∃ l, input = l :: rest ∧ sort l.token = true ∧ token = l.source := by
  obtain ⟨token?, mid, haccept, hmatch⟩ := outcome_bind_eq_ok h
  rcases acceptIf_eq_ok haccept with ⟨l, rfl, hsort, rfl⟩ | ⟨rfl, rfl⟩
  · cases hmatch
    exact ⟨l, rfl, hsort, rfl⟩
  · cases mid <;> cases hmatch

theorem require_eq_ok {sign : Sign} {input rest : List Lexeme} {a : Unit}
    (h : (require sign input).outcome = .ok (a, rest)) : ∃ place, input = ⟨.sign sign, place⟩ :: rest := by
  obtain ⟨token, mid, hexpect, hpure⟩ := outcome_bind_eq_ok h
  cases hpure
  obtain ⟨⟨token, place⟩, rfl, hsort, _⟩ := expectIf_eq_ok hexpect
  cases beq_iff_eq.mp hsort
  exact ⟨place, rfl⟩

end Phrase

theorem accept_sign (sign : Sign) (place : Place) (rest : List Lexeme) :
    (Phrase.accept sign (⟨.sign sign, place⟩ :: rest)).outcome = .ok (some ⟨sign.spelling, place⟩, rest) := by
  simp [Phrase.accept, Phrase.acceptIf, Lexeme.source, Token.text]

theorem require_sign (sign : Sign) (place : Place) (rest : List Lexeme) :
    (Phrase.require sign (⟨.sign sign, place⟩ :: rest)).outcome = .ok ((), rest) := by
  have haccept := accept_sign sign place rest
  unfold Phrase.accept at haccept
  unfold Phrase.require Phrase.expect Phrase.expectIf
  rw [Phrase.outcome_bind, Phrase.outcome_bind, haccept]
  rfl

/-! ### Phrases that complete nothing -/

def Phrase.Quiet (p : Phrase α) : Prop :=
  ∀ input, (p input).reductions = []

namespace Phrase.Quiet

theorem pure (a : α) : (Pure.pure a : Phrase α).Quiet := fun _ => rfl

theorem bind {p : Phrase α} {f : α → Phrase β} (hp : p.Quiet) (hf : ∀ a, (f a).Quiet) :
    (p >>= f).Quiet := by
  intro input
  change (Phrase.bind p f input).reductions = []
  have hdone := hp input
  rcases h : p input with ⟨done, fault | ⟨a, rest⟩⟩ <;> rw [h] at hdone <;> subst hdone
  · simp [Phrase.bind, h]
  · simp [Phrase.bind, h, hf a rest]

theorem peek : Phrase.peek.Quiet := fun _ => rfl

theorem peekSecond : Phrase.peekSecond.Quiet := fun _ => rfl

theorem unexpected (expected : String) : (Phrase.unexpected expected : Phrase α).Quiet := by
  rintro (_ | ⟨l, rest⟩) <;> rfl

theorem here (expected : String) : (Phrase.here expected).Quiet := by
  rintro (_ | ⟨l, rest⟩) <;> rfl

theorem next (expected : String) : (Phrase.next expected).Quiet := by
  rintro (_ | ⟨l, rest⟩) <;> rfl

theorem acceptIf (sort : Token → Bool) : (Phrase.acceptIf sort).Quiet := by
  rintro (_ | ⟨l, rest⟩)
  · rfl
  · by_cases h : sort l.token = true <;> simp [Phrase.acceptIf, h]

theorem accept (sign : Sign) : (Phrase.accept sign).Quiet := acceptIf _

theorem acceptWord (word : String) : (Phrase.acceptWord word).Quiet := acceptIf _

theorem expectIf (sort : Token → Bool) (expected : String) : (Phrase.expectIf sort expected).Quiet :=
  bind (acceptIf sort) fun
    | some token => pure token
    | none => unexpected expected

theorem expect (sign : Sign) : (Phrase.expect sign).Quiet := expectIf _ _

theorem expectWord (word : String) : (Phrase.expectWord word).Quiet := expectIf _ _

theorem require (sign : Sign) : (Phrase.require sign).Quiet :=
  bind (expect sign) fun _ => pure ()

end Phrase.Quiet

/-! ### What phrases leave to be read -/

/-- What a phrase leaves to be read is an end of what it was given. -/
def Phrase.Shortens (p : Phrase α) : Prop :=
  ∀ input a rest, (p input).outcome = .ok (a, rest) → rest <:+ input

namespace Phrase

namespace Shortens

theorem pure (a : α) : (Pure.pure a : Phrase α).Shortens := by
  intro input a' rest h
  cases h
  exact List.suffix_rfl

theorem bind {p : Phrase α} {f : α → Phrase β} (hp : p.Shortens) (hf : ∀ a, (f a).Shortens) :
    (p >>= f).Shortens := by
  intro input b rest h
  obtain ⟨a, mid, ha, hb⟩ := outcome_bind_eq_ok h
  exact (hf a mid b rest hb).trans (hp input a mid ha)

theorem peek : Phrase.peek.Shortens := by
  intro input a rest h
  cases h
  exact List.suffix_rfl

theorem peekSecond : Phrase.peekSecond.Shortens := by
  intro input a rest h
  cases h
  exact List.suffix_rfl

theorem fail (fault : SyntaxFault) : (Phrase.fail fault : Phrase α).Shortens := by
  intro input a rest h
  cases h

theorem unexpected (expected : String) : (Phrase.unexpected expected : Phrase α).Shortens := by
  rintro (_ | ⟨l, input⟩) a rest h <;> cases h

theorem here (expected : String) : (Phrase.here expected).Shortens := by
  rintro (_ | ⟨l, input⟩) a rest h <;> cases h
  exact List.suffix_rfl

theorem next (expected : String) : (Phrase.next expected).Shortens := by
  rintro (_ | ⟨l, input⟩) a rest h <;> cases h
  exact List.suffix_cons _ _

theorem acceptIf (sort : Token → Bool) : (Phrase.acceptIf sort).Shortens := by
  rintro (_ | ⟨l, input⟩) a rest h
  · cases h
    exact List.suffix_rfl
  · unfold Phrase.acceptIf at h
    dsimp only at h
    split at h
    · cases h
      exact List.suffix_cons _ _
    · cases h
      exact List.suffix_rfl

theorem accept (sign : Sign) : (Phrase.accept sign).Shortens := acceptIf _

theorem acceptWord (word : String) : (Phrase.acceptWord word).Shortens := acceptIf _

theorem expectIf (sort : Token → Bool) (expected : String) : (Phrase.expectIf sort expected).Shortens :=
  bind (acceptIf sort) fun
    | some token => pure token
    | none => unexpected expected

theorem expectWord (word : String) : (Phrase.expectWord word).Shortens := expectIf _ _

theorem require (sign : Sign) : (Phrase.require sign).Shortens :=
  bind (expectIf _ _) fun _ => pure ()

end Shortens

end Phrase

end GeoFilter
