import GeoFilter.Proofs.Dialects.Literal

/-!
# What phrases complete

A phrase that is given an end of the lexemes of a statement completes rules at their places: a number with the minus in
front of it (`Completed.number`), an ENVELOPE with four such numbers (`Completed.envelope`), or a rule that reads no
number (`Completed.rule`).  What it leaves is an end of the lexemes again, and a fault is found at one of them or at the
end of the statement.

`Completes L p Q` says so of a phrase `p`, and `Q` of its values.  There is one rule for each way of putting phrases
together.
-/

namespace GeoFilter

/-! ### Places of lexemes -/

/-- Whether a token is at the place of one of some lexemes. -/
def Placed (L : List Lexeme) (token : SourceToken) : Prop :=
  ∃ l ∈ L, token.place = l.place

/-- Whether a fault is found at one of some lexemes, or at the end. -/
def SyntaxFault.IsPlaced (L : List Lexeme) : SyntaxFault → Prop
  | .unexpected _ token | .tooDeep token => Placed L token
  | .endReached _ => True

section Placed

variable {L : List Lexeme}

theorem placed_source {l : Lexeme} (h : l ∈ L) : Placed L l.source := ⟨l, h, rfl⟩

theorem placed_head {l : Lexeme} {rest : List Lexeme} (h : l :: rest <:+ L) : Placed L l.source :=
  placed_source (h.subset List.mem_cons_self)

theorem suffix_of_cons {l : Lexeme} {rest : List Lexeme} (h : l :: rest <:+ L) : rest <:+ L :=
  (List.suffix_cons l rest).trans h

theorem SignedIn.placed_number {n : Option SourceToken × SourceToken} (h : SignedIn L n) : Placed L n.2 := by
  cases h with
  | plain hmem => exact placed_source hmem
  | negative hpair => exact placed_source (hpair.subset (by simp))

theorem SignedIn.placed_minus {n : Option SourceToken × SourceToken} (h : SignedIn L n) :
    ∀ minus ∈ n.1, Placed L minus := by
  cases h with
  | plain => nofun
  | negative hpair =>
    intro minus hminus
    cases hminus
    exact placed_source (hpair.subset List.mem_cons_self)

theorem SignedIn.placed_withSign {n : Option SourceToken × SourceToken} (h : SignedIn L n) :
    Placed L (Grammar.withSign n) := by
  obtain ⟨_ | minus, number⟩ := n
  · exact h.placed_number
  · obtain ⟨l, hl, hplace⟩ := h.placed_minus minus rfl
    exact ⟨l, hl, hplace⟩

end Placed

/-! ### Completed rules -/

/-- Whether a production reads a number from its token, which has the given text. -/
def Production.readsNumber (text : String) : Production → Bool
  | .integerLiteral => !Grammar.isFloatingText text
  | .floatingLiteral => Grammar.isFloatingText text
  | .ordinate | .srid | .envelopeComponent => true
  | _ => false

/-- Whether a production neither reads numbers from its tokens nor changes one. -/
def Production.isPlain : Production → Bool
  | .integerLiteral | .floatingLiteral | .negativeNumber | .ordinate | .srid | .envelopeComponent | .envelope => false
  | _ => true

/-- The completed rules of a minus in front of a number, if there is one. -/
def signReductions (minus? : Option SourceToken) : List Reduction :=
  minus?.toList.map fun minus => ⟨.negativeNumber, [minus]⟩

/-- Rules that are completed in a statement of the given lexemes. -/
inductive Completed (L : List Lexeme) : List Reduction → Prop
  | nil : Completed L []
  | append {first second : List Reduction} (h : Completed L first) (h' : Completed L second) :
      Completed L (first ++ second)
  | number {production : Production} {n : Option SourceToken × SourceToken} (hn : SignedIn L n)
      (hproduction : production.readsNumber n.2.text = true) :
      Completed L (⟨production, [n.2]⟩ :: signReductions n.1)
  | envelope {keyword : SourceToken} {west east north south : Option SourceToken × SourceToken}
      {code : List SourceToken} (hkeyword : Placed L keyword) (hbounds : ∀ n ∈ [west, east, north, south], SignedIn L n)
      (hcode : ∀ token ∈ code, Placed L token) :
      Completed L [⟨.envelope, [keyword, Grammar.withSign west, Grammar.withSign east, Grammar.withSign north,
        Grammar.withSign south] ++ code⟩]
  | rule {production : Production} {tokens : List SourceToken} (hplain : production.isPlain = true)
      (htokens : ∀ token ∈ tokens, Placed L token) : Completed L [⟨production, tokens⟩]

/-! ### Readings and phrases -/

/-- A reading of an end of the given lexemes, with a value that has a property. -/
structure Reading.Within (L : List Lexeme) (Q : α → Prop) (r : Reading α) : Prop where
  reductions : Completed L r.reductions
  value : ∀ a rest, r.outcome = .ok (a, rest) → rest <:+ L ∧ Q a
  fault : ∀ f, r.outcome = .error f → f.IsPlaced L

def Phrase.Completes (L : List Lexeme) (p : Phrase α) (Q : α → Prop := fun _ => True) : Prop :=
  ∀ input, input <:+ L → (p input).Within L Q

namespace Phrase.Completes

variable {L : List Lexeme} {p : Phrase α} {f : α → Phrase β} {Q : α → Prop} {R : β → Prop}

theorem within_ok {a : α} {rest : List Lexeme} (hrest : rest <:+ L) (ha : Q a) :
    (⟨[], .ok (a, rest)⟩ : Reading α).Within L Q where
  reductions := .nil
  value := by
    intro a' rest' h
    cases h
    exact ⟨hrest, ha⟩
  fault := nofun

theorem within_error {fault : SyntaxFault} (h : fault.IsPlaced L) :
    (⟨[], .error fault⟩ : Reading α).Within L Q where
  reductions := .nil
  value := nofun
  fault := by
    intro f hf
    cases hf
    exact h

/-! ### Phrases after each other -/

theorem pure {a : α} (h : Q a) : Completes L (Pure.pure a) Q := fun _ hinput => within_ok hinput h

theorem done : Completes L (Pure.pure a : Phrase α) := pure trivial

theorem bind (hp : Completes L p Q) (hf : ∀ a, Q a → Completes L (f a) R) : Completes L (p >>= f) R := by
  intro input hinput
  have hfirst := hp input hinput
  change (Phrase.bind p f input).Within L R
  unfold Phrase.bind
  rcases hread : p input with ⟨done, fault | ⟨a, mid⟩⟩ <;> rw [hread] at hfirst
  · refine ⟨hfirst.reductions, nofun, fun f hf => ?_⟩
    cases hf
    exact hfirst.fault _ rfl
  · obtain ⟨hmid, ha⟩ := hfirst.value a mid rfl
    have hsecond := hf a ha mid hmid
    exact ⟨hfirst.reductions.append hsecond.reductions, hsecond.value, hsecond.fault⟩

theorem andThen (hp : Completes L p Q) (hf : ∀ a, Completes L (f a) R) : Completes L (p >>= f) R :=
  hp.bind fun a _ => hf a

theorem reduce {production : Production} {tokens : List SourceToken} (htokens : ∀ token ∈ tokens, Placed L token)
    (hplain : production.isPlain = true) : Completes L (Phrase.reduce production tokens) :=
  fun _ hinput => ⟨.rule hplain htokens, (within_ok hinput trivial).value, nofun⟩

theorem reduceAt {production : Production} {token : SourceToken} (htoken : Placed L token)
    (hplain : production.isPlain = true) : Completes L (Phrase.reduce production [token]) :=
  reduce (List.forall_mem_singleton.mpr htoken) hplain

/-! ### The next lexemes -/

theorem fail {fault : SyntaxFault} (h : fault.IsPlaced L) : Completes L (Phrase.fail fault : Phrase α) Q :=
  fun _ _ => within_error h

theorem peek : Completes L Phrase.peek := fun _ hinput => within_ok hinput trivial

theorem peekSecond : Completes L Phrase.peekSecond := fun _ hinput => within_ok hinput trivial

theorem unexpected (expected : String) : Completes L (Phrase.unexpected expected : Phrase α) Q := by
  rintro (_ | ⟨l, rest⟩) hinput
  · exact within_error trivial
  · exact within_error (placed_head hinput)

theorem here (expected : String) : Completes L (Phrase.here expected) (Placed L) := by
  rintro (_ | ⟨l, rest⟩) hinput
  · exact within_error trivial
  · exact within_ok hinput (placed_head hinput)

theorem next (expected : String) : Completes L (Phrase.next expected) (Placed L) := by
  rintro (_ | ⟨l, rest⟩) hinput
  · exact within_error trivial
  · exact within_ok (suffix_of_cons hinput) (placed_head hinput)

theorem acceptIf (sort : Token → Bool) :
    Completes L (Phrase.acceptIf sort) fun token? => ∀ token ∈ token?, Placed L token := by
  rintro (_ | ⟨l, rest⟩) hinput
  · exact within_ok hinput nofun
  · unfold Phrase.acceptIf
    dsimp only
    split
    · refine within_ok (suffix_of_cons hinput) fun token htoken => ?_
      cases htoken
      exact placed_head hinput
    · exact within_ok hinput nofun

theorem accept (sign : Sign) : Completes L (Phrase.accept sign) fun token? => ∀ token ∈ token?, Placed L token :=
  acceptIf _

theorem acceptWord (word : String) :
    Completes L (Phrase.acceptWord word) fun token? => ∀ token ∈ token?, Placed L token :=
  acceptIf _

theorem expectIf (sort : Token → Bool) (expected : String) :
    Completes L (Phrase.expectIf sort expected) (Placed L) :=
  (acceptIf sort).bind fun
    | some token, htoken => pure (htoken token rfl)
    | none, _ => unexpected expected

theorem expectWord (word : String) : Completes L (Phrase.expectWord word) (Placed L) := expectIf _ _

theorem require (sign : Sign) : Completes L (Phrase.require sign) :=
  (expectIf _ _).andThen fun _ => done

/-! ### Repetitions -/

section Repetition

variable {separator : Phrase (Option α)} {item : α → Phrase Unit}

theorem repeatUpTo (hseparator : Completes L separator fun a? => ∀ a ∈ a?, Q a)
    (hitem : ∀ a, Q a → Completes L (item a)) (fuel : Nat) : Completes L (Phrase.repeatUpTo separator item fuel) := by
  induction fuel with
  | zero => exact done
  | succ fuel ih =>
    refine hseparator.bind fun a? ha? => ?_
    cases a? with
    | none => exact done
    | some a => exact (hitem a (ha? a rfl)).andThen fun _ => ih

theorem repeatAfter (hseparator : Completes L separator fun a? => ∀ a ∈ a?, Q a)
    (hitem : ∀ a, Q a → Completes L (item a)) : Completes L (Phrase.repeatAfter separator item) :=
  fun input => repeatUpTo hseparator hitem input.length input

theorem commaSeparated {phrase : Phrase Unit} (h : Completes L phrase) :
    Completes L (Phrase.commaSeparated phrase) :=
  h.andThen fun _ => repeatAfter (accept .comma) fun _ _ => h

theorem parenthesized (hp : Completes L p Q) : Completes L (Phrase.parenthesized p) Q :=
  (require .leftParen).andThen fun _ => hp.bind fun _ ha => (require .rightParen).andThen fun _ => pure ha

theorem nested {inner? : Option (Phrase α)} (h : ∀ inner ∈ inner?, Completes L inner Q) {opener : SourceToken}
    (hopener : Placed L opener) : Completes L (Phrase.nested inner? opener) Q := by
  cases inner? with
  | none => exact fail hopener
  | some inner => exact h inner rfl

end Repetition

end Phrase.Completes

theorem Phrase.bind_assoc (p : Phrase α) (f : α → Phrase β) (g : β → Phrase γ) :
    p >>= f >>= g = p >>= fun a => f a >>= g := by
  funext input
  change Phrase.bind (Phrase.bind p f) g input = Phrase.bind p (fun a => Phrase.bind (f a) g) input
  unfold Phrase.bind
  rcases p input with ⟨done, fault | ⟨a, mid⟩⟩
  · rfl
  · dsimp only
    rcases f a mid with ⟨more, fault | ⟨b, rest⟩⟩
    · rfl
    · dsimp only
      rw [List.append_assoc]

/-! ### Numbers -/

open Phrase (Completes)

variable {L : List Lexeme}

theorem completes_signed : Completes L Grammar.signed (SignedIn L) := by
  intro input hinput
  have hplaced : Completes L Grammar.signed :=
    (Phrase.Completes.accept .minus).andThen fun _ =>
      (Phrase.Completes.expectIf Grammar.isNumber "a number").andThen fun _ => .done
  obtain ⟨hreductions, hvalue, hfault⟩ := hplaced input hinput
  exact ⟨hreductions, fun n rest hread => ⟨(hvalue n rest hread).1, signedIn_of_signed hinput hread⟩, hfault⟩

theorem completes_number {production : Production} {n : Option SourceToken × SourceToken} (hn : SignedIn L n)
    (hproduction : production.readsNumber n.2.text = true) :
    Completes L (Phrase.reduce production [n.2] >>= fun _ => Grammar.reduceSign n.1) := by
  intro input hinput
  have hcompleted := Completed.number hn hproduction
  obtain ⟨_ | minus, number⟩ := n
  · exact ⟨hcompleted, (Phrase.Completes.within_ok hinput trivial).value, nofun⟩
  · exact ⟨hcompleted, (Phrase.Completes.within_ok hinput trivial).value, nofun⟩

theorem completes_signedNumber {production : Production} (hproduction : ∀ text, production.readsNumber text = true) :
    Completes L (Grammar.signedNumber production) fun token => ∃ n, SignedIn L n ∧ token = Grammar.withSign n :=
  completes_signed.bind fun n hn => by
    rw [← Phrase.bind_assoc]
    exact (completes_number hn (hproduction _)).andThen fun _ => .pure ⟨n, hn, rfl⟩

theorem completes_signedLiteral : Completes L Grammar.signedLiteral := by
  refine completes_signed.bind fun n hn => completes_number hn ?_
  split
  case isTrue h => exact h
  case isFalse h => rw [Production.readsNumber, Bool.eq_false_iff.mpr h, Bool.not_false]

end GeoFilter
