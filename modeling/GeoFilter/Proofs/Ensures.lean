import GeoFilter.Proofs.Yield

/-!
# What is true of everything that is translated

`Ensures sound start c Q`: of tokens that are all `sound`, and that start as `start` asks for, the translation `c`
makes nothing without the property `Q`, and it leaves sound tokens behind.  There is one rule for each way of
putting translations together.  Most parts ask for `Anything` at the start; what a look at the next tokens tells
is asked for by the part behind the look.
-/

namespace GeoFilter

open Translation (read bind_eq_ok read_eq_ok complete_eq_ok)

def AllSound (sound : Token → Prop) (input : List Lexeme) : Prop := ∀ token ∈ tokensOf input, sound token

theorem allSound_cons {sound : Token → Prop} {l : Lexeme} {input : List Lexeme} (h : AllSound sound (l :: input)) :
    sound l.token ∧ AllSound sound input :=
  List.forall_mem_cons.mp h

theorem AllSound.of_suffix {sound : Token → Prop} {input rest : List Lexeme} (h : AllSound sound input)
    (hrest : rest <:+ input) : AllSound sound rest :=
  fun token htoken => h token ((hrest.map Lexeme.token).subset htoken)

/-- Whatever a translation makes of sound tokens has a property, and what it leaves is sound. -/
def Ensures (sound : Token → Prop) (start : List Token → Prop) (c : Translation α) (Q : α → Prop) : Prop :=
  ∀ input a rest, AllSound sound input → start (tokensOf input) → c input = .ok (a, rest) →
    Q a ∧ AllSound sound rest

namespace Ensures

variable {sound : Token → Prop} {start : List Token → Prop} {u : Setting} {c : Translation α}
  {f : α → Translation β} {Q : α → Prop} {R : β → Prop}

theorem mono {Q' : α → Prop} (h : Ensures sound start c Q) (hQ : ∀ a, Q a → Q' a) : Ensures sound start c Q' := by
  intro input a rest hinput hstart hread
  obtain ⟨ha, hrest⟩ := h input a rest hinput hstart hread
  exact ⟨hQ a ha, hrest⟩

theorem of_start {start' : List Token → Prop} (h : Ensures sound start' c Q) (hstart : ∀ ts, start ts → start' ts) :
    Ensures sound start c Q :=
  fun input a rest hinput hinput' hread => h input a rest hinput (hstart _ hinput') hread

theorem anywhere (h : Ensures sound Anything c Q) : Ensures sound start c Q := h.of_start fun _ _ => trivial

theorem assume {P : Prop} (hP : ∀ input, AllSound sound input → start (tokensOf input) → P)
    (h : P → Ensures sound start c Q) : Ensures sound start c Q :=
  fun input a rest hinput hstart hread => h (hP input hinput hstart) input a rest hinput hstart hread

/-! ### Parts after each other -/

theorem pure {a : α} (h : Q a) : Ensures sound start (Pure.pure a) Q := by
  intro input a' rest hinput _ hread
  cases hread
  exact ⟨h, hinput⟩

theorem bind (hc : Ensures sound start c Q) (hf : ∀ a, Q a → Ensures sound Anything (f a) R) :
    Ensures sound start (c >>= f) R := by
  intro input b rest hinput hstart hread
  obtain ⟨a, mid, ha, hb⟩ := bind_eq_ok hread
  obtain ⟨hQ, hmid⟩ := hc input a mid hinput hstart ha
  exact hf a hQ mid b rest hmid trivial hb

theorem map {g : α → β} (hc : Ensures sound start c Q) (hg : ∀ a, Q a → R (g a)) :
    Ensures sound start (c >>= fun a => Pure.pure (g a)) R :=
  hc.bind fun a ha => pure (hg a ha)

theorem complete (production : Production) (tokens : List SourceToken) {value : Except Finding α}
    (h : ∀ a, value = .ok a → Q a) : Ensures sound start (Translation.complete u production tokens value) Q := by
  intro input a rest hinput _ hread
  obtain ⟨_, hvalue, rfl⟩ := complete_eq_ok hread
  exact ⟨h a hvalue, hinput⟩

theorem complete_ok (production : Production) (tokens : List SourceToken) {a : α} (h : Q a) :
    Ensures sound start (Translation.complete u production tokens (.ok a)) Q :=
  complete production tokens fun a' ha' => by
    cases ha'
    exact h

/-! ### The next tokens -/

theorem of_suffix {p : Phrase α} (h : ∀ input a rest, AllSound sound input → start (tokensOf input) →
    (p input).outcome = .ok (a, rest) → Q a ∧ rest <:+ input) : Ensures sound start (read p) Q := by
  intro input a rest hinput hstart hread
  obtain ⟨ha, hrest⟩ := h input a rest hinput hstart (read_eq_ok hread)
  exact ⟨ha, hinput.of_suffix hrest⟩

/-- A phrase of which nothing is known but that it leaves an end of what it is given. -/
theorem shortens {p : Phrase α} (hp : p.Shortens) : Ensures sound start (read p) fun _ => True :=
  of_suffix fun input a rest _ _ hread => ⟨trivial, hp input a rest hread⟩

theorem fail (fault : SyntaxFault) : Ensures sound start (read (Phrase.fail fault)) Q := by
  intro input a rest _ _ hread
  cases hread

theorem unexpected (expected : String) : Ensures sound start (read (Phrase.unexpected expected)) Q := by
  rintro (_ | ⟨l, input⟩) a rest _ _ hread <;> cases hread

theorem next (expected : String) : Ensures sound start (read (Phrase.next expected)) fun token =>
    ∃ t ts, start (t :: ts) ∧ sound t ∧ token.text = t.text := by
  refine of_suffix ?_
  rintro (_ | ⟨l, input⟩) token rest hinput hstart hread
  · cases hread
  · cases hread
    exact ⟨⟨l.token, tokensOf input, hstart, (allSound_cons hinput).1, rfl⟩, List.suffix_cons _ _⟩

theorem expectIf (sort : Token → Bool) (expected : String) :
    Ensures sound start (read (Phrase.expectIf sort expected)) fun token =>
      ∃ t ts, start (t :: ts) ∧ sound t ∧ sort t = true ∧ token.text = t.text := by
  refine of_suffix fun input token rest hinput hstart hread => ?_
  obtain ⟨l, rfl, hsort, rfl⟩ := Phrase.expectIf_eq_ok hread
  exact ⟨⟨l.token, tokensOf rest, hstart, (allSound_cons hinput).1, hsort, rfl⟩, List.suffix_cons _ _⟩

theorem expectWord (word : String) : Ensures sound start (read (Phrase.expectWord word)) fun _ => True :=
  shortens (.expectWord word)

theorem require (sign : Sign) : Ensures sound start (read (Phrase.require sign)) fun _ => True :=
  shortens (.require sign)

theorem accept (sign : Sign) : Ensures sound start (read (Phrase.accept sign)) fun _ => True :=
  shortens (.accept sign)

theorem acceptWord (word : String) : Ensures sound start (read (Phrase.acceptWord word)) fun _ => True :=
  shortens (.acceptWord word)

theorem look_bind {p : Phrase α} (told : α → List Token → Prop)
    (hp : ∀ input a rest, start (tokensOf input) → (p input).outcome = .ok (a, rest) →
      rest = input ∧ told a (tokensOf input))
    (hf : ∀ a, Ensures sound (told a) (f a) R) : Ensures sound start (read p >>= f) R := by
  intro input b rest hinput hstart hread
  obtain ⟨a, mid, ha, hb⟩ := bind_eq_ok hread
  obtain ⟨rfl, hstart'⟩ := hp input a mid hstart (read_eq_ok ha)
  exact hf a mid b rest hinput hstart' hb

theorem peek_bind {f : Option Token → Translation β}
    (hf : ∀ token?, Ensures sound (fun ts => start ts ∧ ts.head? = token?) (f token?) R) :
    Ensures sound start (read Phrase.peek >>= f) R := by
  refine look_bind (fun token? ts => start ts ∧ ts.head? = token?) (fun input token? rest hstart hread => ?_) hf
  cases hread
  exact ⟨rfl, hstart, by rw [tokensOf, List.head?_map]⟩

theorem peekSecond_bind {f : Option Token → Translation β}
    (hf : ∀ token?, Ensures sound start (f token?) R) : Ensures sound start (read Phrase.peekSecond >>= f) R := by
  refine look_bind (fun _ => start) (fun input token? rest hstart hread => ?_) hf
  cases hread
  exact ⟨rfl, hstart⟩

theorem here_bind {f : SourceToken → Translation β} {expected : String}
    (hf : ∀ token, Ensures sound start (f token) R) : Ensures sound start (read (Phrase.here expected) >>= f) R := by
  refine look_bind (fun _ => start) ?_ hf
  rintro (_ | ⟨l, input⟩) token rest hstart hread
  · cases hread
  · cases hread
    exact ⟨rfl, hstart⟩

def Called (ts : List Token) : Bool := ts.tail.head? == some (.sign .leftParen)

theorem parenFollows_bind {f : Bool → Translation β}
    (hf : ∀ called, Ensures sound (fun ts => start ts ∧ Called ts = called) (f called) R) :
    Ensures sound start (read Grammar.parenFollows >>= f) R := by
  refine look_bind (fun called ts => start ts ∧ Called ts = called) (fun input called rest hstart hread => ?_) hf
  cases hread
  refine ⟨rfl, hstart, ?_⟩
  rcases input with _ | ⟨l, _ | ⟨l', input⟩⟩ <;> rfl

theorem acceptIf_bind {sort : Token → Bool} {f : Option SourceToken → Translation β}
    (hsome : ∀ token, Ensures sound Anything (f (some token)) R)
    (hnone : Ensures sound (fun ts => start ts ∧ Without sort ts) (f none) R) :
    Ensures sound start (read (Phrase.acceptIf sort) >>= f) R := by
  intro input b rest hinput hstart hread
  obtain ⟨token?, mid, ha, hb⟩ := bind_eq_ok hread
  rcases input with _ | ⟨l, input⟩
  · cases read_eq_ok ha
    exact hnone [] b rest hinput ⟨hstart, nofun⟩ hb
  · have haccept := read_eq_ok ha
    unfold Phrase.acceptIf at haccept
    dsimp only at haccept
    split at haccept
    case isTrue =>
      cases haccept
      exact hsome _ _ b rest (allSound_cons hinput).2 trivial hb
    case isFalse hsort =>
      cases haccept
      exact hnone _ b rest hinput ⟨hstart, .cons (Bool.eq_false_iff.mpr hsort) _⟩ hb

/-! ### Repetitions -/

section Repetition

variable {separator : Phrase (Option γ)} {item : γ → Translation β}

theorem repeatUpTo (hseparator : Ensures sound Anything (read separator) fun _ => True)
    (hitem : ∀ a, Ensures sound Anything (item a) R) (fuel : Nat) :
    Ensures sound start (Translation.repeatUpTo separator item fuel) fun bs => ∀ b ∈ bs, R b := by
  induction fuel generalizing start with
  | zero => exact pure (List.forall_mem_nil _)
  | succ fuel ih =>
    refine hseparator.anywhere.bind fun a? _ => ?_
    cases a? with
    | none => exact pure (List.forall_mem_nil _)
    | some a => exact (hitem a).bind fun b hb => ih.map fun bs hbs => List.forall_mem_cons.mpr ⟨hb, hbs⟩

theorem repeatAfter (hseparator : Ensures sound Anything (read separator) fun _ => True)
    (hitem : ∀ a, Ensures sound Anything (item a) R) :
    Ensures sound start (Translation.repeatAfter separator item) fun bs => ∀ b ∈ bs, R b :=
  fun input => repeatUpTo hseparator hitem input.length input

theorem commaSeparated {item : Translation β} (hitem : Ensures sound Anything item R) :
    Ensures sound start (Translation.commaSeparated item) fun bs => ∀ b ∈ bs.1 :: bs.2, R b :=
  hitem.anywhere.bind fun _ hb =>
    (repeatAfter (accept .comma) fun _ => hitem).map fun _ hbs => List.forall_mem_cons.mpr ⟨hb, hbs⟩

theorem parenthesized (hc : Ensures sound Anything c Q) : Ensures sound start (Translation.parenthesized c) Q :=
  (require .leftParen).bind fun _ _ => hc.bind fun _ ha => (require .rightParen).map fun _ _ => ha

theorem nested {inner? : Option (Translation α)} (h : ∀ inner, inner? = some inner → Ensures sound Anything inner Q)
    (opener : SourceToken) : Ensures sound start (Translation.nested inner? opener) Q := by
  cases inner? with
  | none => exact fail _
  | some inner => exact (h inner rfl).anywhere

end Repetition

end Ensures

end GeoFilter
