import GeoFilter.Proofs.Framing.Expression
import GeoFilter.Proofs.Resolving.Written

/-!
# Reading what is written

`Tracks c written` says of a translation that every value it makes is `written` in the lexemes that it takes.  What reads
some parts one after the other `Gathers` them: it goes on from parts that stand in order, and whatever else it takes has no
semicolon.  There is one rule for each way of putting translations together.
-/

namespace GeoFilter

open Translation (read bind_eq_ok read_eq_ok complete_eq_ok read_phrase_bind)

/-! ### What translations take -/

section Judgements

variable (c : Translation α) (written : List Lexeme → α → List Lexeme → Prop)

/-- A translation whose values are written in the lexemes that it takes, among which all numbers are numerals. -/
def Tracks : Prop :=
  ∀ input a rest, Numerals input → c input = .ok (a, rest) → Numerals rest ∧ written input a rest

def TracksAt (l : Lexeme) : Prop :=
  ∀ input a rest, Numerals (l :: input) → c (l :: input) = .ok (a, rest) → Numerals rest ∧ written (l :: input) a rest

/-- A translation that goes on behind some parts, and whose values are written from the first of them on. -/
def Gathers (P : List Lexeme → β → List Lexeme → Prop) (parts : List β) : Prop :=
  ∀ start input a rest, Numerals input → InOrder P start parts input → c input = .ok (a, rest) →
    Numerals rest ∧ written start a rest

def GathersAt (P : List Lexeme → β → List Lexeme → Prop) (parts : List β) (l : Lexeme) : Prop :=
  ∀ start input a rest, Numerals (l :: input) → InOrder P start parts (l :: input) → c (l :: input) = .ok (a, rest) →
    Numerals rest ∧ written start a rest

end Judgements

theorem Numerals.of_append {taken rest : List Lexeme} (h : Numerals (taken ++ rest)) : Numerals rest :=
  fun l hl => h l (List.mem_append_right _ hl)

variable {c : Translation α} {written : List Lexeme → α → List Lexeme → Prop} {l : Lexeme}

theorem Tracks.at (h : Tracks c written) (l : Lexeme) : TracksAt c written l := fun input => h (l :: input)

theorem Gathers.at {P : List Lexeme → β → List Lexeme → Prop} {parts : List β} (h : Gathers c written P parts)
    (l : Lexeme) : GathersAt c written P parts l :=
  fun start input => h start (l :: input)

namespace Tracks

theorem fail (fault : SyntaxFault) : Tracks (read (Phrase.fail fault) : Translation α) written := nofun

theorem unexpected (expected : String) : Tracks (read (Phrase.unexpected expected) : Translation α) written := by
  rintro (_ | ⟨l, input⟩) a rest _ h <;> cases h

theorem nested {inner? : Option (Translation α)} (h : ∀ inner, inner? = some inner → Tracks inner written)
    (opener : SourceToken) : Tracks (Translation.nested inner? opener) written := by
  cases inner? with
  | none => exact fail _
  | some inner => exact h inner rfl

theorem here_bind {expected : String} {f : SourceToken → Translation α} (hf : ∀ token, Tracks (f token) written) :
    Tracks (read (Phrase.here expected) >>= f) written := by
  rintro (_ | ⟨l, input⟩) a rest hnumerals h
  · cases h
  · exact hf l.source (l :: input) a rest hnumerals h

theorem peek_bind {f : Option Token → Translation α} (hnone : Tracks (f none) written)
    (hf : ∀ l : Lexeme, TracksAt (f (some l.token)) written l) : Tracks (read Phrase.peek >>= f) written := by
  rintro (_ | ⟨l, input⟩) a rest
  · exact hnone [] a rest
  · exact hf l input a rest

theorem map {written' : List Lexeme → β → List Lexeme → Prop} {g : α → β} (h : Tracks c written)
    (hg : ∀ input a rest, written input a rest → written' input (g a) rest) :
    Tracks (c >>= fun a => pure (g a)) written' := by
  intro input b rest hnumerals hb
  obtain ⟨a, mid, ha, hpure⟩ := bind_eq_ok hb
  cases hpure
  obtain ⟨hrest, hwritten⟩ := h input a rest hnumerals ha
  exact ⟨hrest, hg _ _ _ hwritten⟩

end Tracks

namespace TracksAt

theorem parenFollows_bind {f : Bool → Translation α} (hf : ∀ called, TracksAt (f called) written l) :
    TracksAt (read Grammar.parenFollows >>= f) written l := by
  intro input a rest hnumerals h
  obtain ⟨called, mid, hcalled, ha⟩ := bind_eq_ok h
  cases hcalled
  exact hf _ input a rest hnumerals ha

theorem peekSecond_bind {f : Option Token → Translation α} (hf : ∀ token?, TracksAt (f token?) written l) :
    TracksAt (read Phrase.peekSecond >>= f) written l := by
  intro input a rest hnumerals h
  obtain ⟨token?, mid, htoken, ha⟩ := bind_eq_ok h
  cases htoken
  exact hf _ input a rest hnumerals ha

theorem map {written' : List Lexeme → β → List Lexeme → Prop} {g : α → β} (h : TracksAt c written l)
    (hg : ∀ input a rest, written input a rest → written' input (g a) rest) :
    TracksAt (c >>= fun a => pure (g a)) written' l := by
  intro input b rest hnumerals hb
  obtain ⟨a, mid, ha, hpure⟩ := bind_eq_ok hb
  cases hpure
  obtain ⟨hrest, hwritten⟩ := h input a rest hnumerals ha
  exact ⟨hrest, hg _ _ _ hwritten⟩

end TracksAt

namespace Gathers

variable {P : List Lexeme → β → List Lexeme → Prop} {parts : List β}

theorem unexpected (expected : String) :
    Gathers (read (Phrase.unexpected expected) : Translation α) written P parts := by
  rintro start (_ | ⟨l, input⟩) a rest _ _ h <;> cases h

theorem pure {a : α} (h : ∀ start rest, InOrder P start parts rest → written start a rest) :
    Gathers (Pure.pure a) written P parts := by
  rintro start input _ _ hnumerals hparts ⟨⟩
  exact ⟨hnumerals, h _ _ hparts⟩

theorem complete {u : Setting} {production : Production} {tokens : List SourceToken} {value : Except Finding α}
    (h : ∀ start a rest, value = .ok a → InOrder P start parts rest → written start a rest) :
    Gathers (Translation.complete u production tokens value) written P parts := by
  intro start input a rest hnumerals hparts hc
  obtain ⟨_, hvalue, rfl⟩ := complete_eq_ok hc
  exact ⟨hnumerals, h _ _ _ hvalue hparts⟩

theorem peek_bind {f : Option Token → Translation α} (hnone : Gathers (f none) written P parts)
    (hf : ∀ l : Lexeme, GathersAt (f (some l.token)) written P parts l) :
    Gathers (read Phrase.peek >>= f) written P parts := by
  rintro start (_ | ⟨l, input⟩) a rest
  · exact hnone start [] a rest
  · exact hf l start input a rest

end Gathers

theorem GathersAt.next_bind {P : List Lexeme → β → List Lexeme → Prop} {parts : List β} {expected : String}
    {f : SourceToken → Translation α} (hl : l.token.isReservable = false)
    (hf : Gathers (f l.source) written P parts) :
    GathersAt (read (Phrase.next expected) >>= f) written P parts l := by
  intro start input a rest hnumerals hparts h
  have htaken : Reserve.semicolons.Absent [l] := List.forall_mem_singleton.mpr (Reserve.semicolons.free hl)
  have hrest : Numerals ([l] ++ input) := hnumerals
  have hnext : InOrder P start parts ([l] ++ input) := hparts
  exact hf start input a rest hrest.of_append (hnext.skip htaken) h

theorem TracksAt.next_bind {P : List Lexeme → β → List Lexeme → Prop} {expected : String}
    {f : SourceToken → Translation α} (hl : l.token.isReservable = false) (hf : Gathers (f l.source) written P []) :
    TracksAt (read (Phrase.next expected) >>= f) written l :=
  fun input => GathersAt.next_bind hl hf (l :: input) input |> fun h a rest hnumerals => h a rest hnumerals .none

/-! ### Repetitions -/

section Repetition

variable {separator : Phrase (Option σ)} {item : σ → Translation β}

end Repetition

end GeoFilter
