import GeoFilter.Proofs.Phrase
import GeoFilter.Proofs.Translation

/-!
# What stands behind a translation

What a translation reads is decided by itself and by little of what stands behind it: by the next lexeme, and where this
is a point or a colon, with which the name of an attribute might go on, by the one after it as well.  Where nothing is
left, lexemes may stand behind that start with a token at which the translation would have stopped.

`Framed sort c c'` says that `c'` makes the same as `c` of the lexemes that `c` reads, whatever stands behind them in
place of what `c` leaves; `sort` are the tokens at which both stop.  A translation is compared to one that may differ from
it, because a part of a statement is read with more levels left for nesting in some places than in others.  `Solid`
translations always take a lexeme as well.
-/

namespace GeoFilter

open Translation (read bind_of_ok bind_eq_ok bind_of_error read_of_ok read_eq_ok)

/-! ### Lexemes behind a translation -/

/-- Whether a token joins the names of an attribute, if a word stands behind it. -/
def Token.joins : Token → Bool
  | .sign .period | .sign .colon => true
  | _ => false

theorem Token.eq_of_joins {token : Token} (h : token.joins = true) : token = .sign .period ∨ token = .sign .colon := by
  unfold Token.joins at h
  split at h
  case h_1 => exact .inl rfl
  case h_2 => exact .inr rfl
  case h_3 => cases h

abbrev Token.never : Token → Bool := fun _ => false

def Token.endsFilter : Token → Bool
  | .sign s => [Sign.semicolon, .rightParen, .rightBracket].contains s
  | _ => false

def Token.endsOperand : Token → Bool
  | .sign s => [Sign.comma, .semicolon, .rightParen, .rightBracket].contains s
  | token => token.isWord "AND" || token.isWord "OR"

theorem Token.endsOperand_of_endsFilter (token : Token) (h : token.endsFilter = true) : token.endsOperand = true := by
  cases token with
  | sign s => cases s <;> first | rfl | cases h
  | _ => cases h

def Ends (sort : Token → Bool) (tail : List Lexeme) : Prop :=
  ∀ l ∈ tail.head?, sort l.token = true

variable {sort sort' : Token → Bool}

theorem ends_nil : Ends sort [] := nofun

theorem ends_cons {l : Lexeme} (hl : sort l.token = true) (rest : List Lexeme) : Ends sort (l :: rest) := by
  intro l' hl'
  cases hl'
  exact hl

/-- Lexemes that may stand in place of each other behind a translation which stops at tokens of some sort. -/
inductive Exchange (sort : Token → Bool) : List Lexeme → List Lexeme → Prop
  | refl (tail : List Lexeme) : Exchange sort tail tail
  | head {l : Lexeme} (hl : l.token.joins = false) (tail tail' : List Lexeme) : Exchange sort (l :: tail) (l :: tail')
  | heads (l m : Lexeme) (tail tail' : List Lexeme) : Exchange sort (l :: m :: tail) (l :: m :: tail')
  | ends {tail tail' : List Lexeme} (h : Ends sort tail) (h' : Ends sort tail') : Exchange sort tail tail'

theorem Exchange.mono {tail tail' : List Lexeme} (h : Exchange sort tail tail')
    (hsort : ∀ token, sort token = true → sort' token = true) : Exchange sort' tail tail' := by
  cases h with
  | refl => exact .refl _
  | head hl => exact .head hl _ _
  | heads => exact .heads _ _ _ _
  | ends h h' => exact .ends (fun l hl => hsort _ (h l hl)) fun l hl => hsort _ (h' l hl)

/-- Lexemes in front make no difference, unless they are a single one that joins names. -/
theorem Exchange.append {tail tail' : List Lexeme} (h : Exchange sort tail tail') {front : List Lexeme}
    (hfront : ∀ l, front = [l] → l.token.joins = false) : Exchange sort (front ++ tail) (front ++ tail') := by
  rcases front with _ | ⟨l, _ | ⟨m, front⟩⟩
  · exact h
  · exact .head (hfront l rfl) _ _
  · exact .heads _ _ _ _

theorem Exchange.append_of_ne_nil {front tail tail' : List Lexeme} (hne : front ≠ [])
    (hfront : ∀ l, front = [l] → l.token.joins = false) : Exchange sort (front ++ tail) (front ++ tail') := by
  rcases front with _ | ⟨l, _ | ⟨m, front⟩⟩
  · exact absurd rfl hne
  · exact .head (hfront l rfl) _ _
  · exact .heads _ _ _ _

theorem Exchange.head_eq {tail tail' : List Lexeme} (h : Exchange sort tail tail') :
    tail.head? = tail'.head? ∨ Ends sort tail ∧ Ends sort tail' := by
  cases h with
  | refl | head | heads => exact .inl rfl
  | ends h h' => exact .inr ⟨h, h'⟩

/-- What a translation makes of some lexemes, another makes of them too, whatever stands behind them. -/
structure Framed (sort : Token → Bool) (c c' : Translation α) : Prop where
  suffix : ∀ input a rest, c input = .ok (a, rest) → rest <:+ input
  proper : ∀ l rest a, l.token.joins = true → c (l :: rest) ≠ .ok (a, rest)
  frame : ∀ taken tail tail' a, Exchange sort tail tail' → c (taken ++ tail) = .ok (a, tail) →
    c' (taken ++ tail') = .ok (a, tail')

/-- A framed translation that always takes a lexeme. -/
structure Solid (sort : Token → Bool) (c c' : Translation α) : Prop extends Framed sort c c' where
  takes : ∀ input a, c input ≠ .ok (a, input)

/-- A translation that takes the given lexeme, and what else it takes is framed. -/
structure SolidAt (sort : Token → Bool) (l : Lexeme) (c c' : Translation α) : Prop where
  suffix : ∀ input a rest, c (l :: input) = .ok (a, rest) → rest <:+ input
  proper : l.token.joins = true → ∀ rest a, c (l :: rest) ≠ .ok (a, rest)
  frame : ∀ taken tail tail' a, Exchange sort tail tail' → c (l :: (taken ++ tail)) = .ok (a, tail) →
    c' (l :: (taken ++ tail')) = .ok (a, tail')

theorem Translation.read_phrase_bind (p : Phrase α) (f : α → Phrase β) :
    read (p >>= f) = read p >>= fun a => read (f a) := by
  funext input
  change read (p >>= f) input = Translation.bind (read p) _ input
  unfold Translation.bind
  simp only [read, Phrase.outcome_bind]
  cases (p input).outcome <;> rfl

theorem suffix_read {p : Phrase α} (hp : p.Shortens) (input : List Lexeme) (a : α) (rest : List Lexeme)
    (h : read p input = .ok (a, rest)) : rest <:+ input :=
  hp input a rest (read_eq_ok h)

/-! ### The next lexeme -/

theorem read_acceptIf_of_pos {p : Token → Bool} {l : Lexeme} (h : p l.token = true)
    (input : List Lexeme) : read (Phrase.acceptIf p) (l :: input) = .ok (some l.source, input) :=
  read_of_ok (by rw [Phrase.acceptIf, if_pos h])

theorem read_acceptIf_of_neg {p : Token → Bool} {l : Lexeme} (h : ¬p l.token = true)
    (input : List Lexeme) : read (Phrase.acceptIf p) (l :: input) = .ok (none, l :: input) :=
  read_of_ok (by rw [Phrase.acceptIf, if_neg h])

theorem read_acceptIf_of_ends {p : Token → Bool} (hp : ∀ token, sort token = true → p token = false)
    {tail : List Lexeme} (htail : Ends sort tail) : read (Phrase.acceptIf p) tail = .ok (none, tail) := by
  rcases tail with _ | ⟨l, tail⟩
  · rfl
  · exact read_acceptIf_of_neg (by rw [hp _ (htail l rfl)]; decide) tail

/-! ### Framed translations -/

namespace Framed

variable {c c' : Translation α} {f f' : α → Translation β}

theorem mono (h : Framed sort c c') (hsort : ∀ token, sort' token = true → sort token = true) : Framed sort' c c' where
  suffix := h.suffix
  proper := h.proper
  frame taken tail tail' a hexchange := h.frame taken tail tail' a (hexchange.mono hsort)

theorem taken_bind (hc : Framed sort c c') (hf : ∀ a, Framed sort' (f a) (f' a)) {taken tail : List Lexeme} {b : β}
    (h : (c >>= f) (taken ++ tail) = .ok (b, tail)) :
    ∃ a front behind, taken = front ++ behind ∧ c (front ++ (behind ++ tail)) = .ok (a, behind ++ tail) ∧
      f a (behind ++ tail) = .ok (b, tail) := by
  obtain ⟨a, mid, ha, hb⟩ := bind_eq_ok h
  obtain ⟨behind, rfl⟩ := (hf a).suffix _ _ _ hb
  obtain ⟨front, hfront⟩ := hc.suffix _ _ _ ha
  obtain rfl : front ++ behind = taken := List.append_cancel_right (by rw [List.append_assoc, hfront])
  rw [List.append_assoc] at ha
  exact ⟨a, front, behind, rfl, ha, hb⟩

theorem suffix_bind (hc : Framed sort c c') (hf : ∀ a, Framed sort' (f a) (f' a)) (input : List Lexeme) (b : β)
    (rest : List Lexeme) (h : (c >>= f) input = .ok (b, rest)) : rest <:+ input := by
  obtain ⟨a, mid, ha, hb⟩ := bind_eq_ok h
  exact ((hf a).suffix _ _ _ hb).trans (hc.suffix _ _ _ ha)

/-- No part that joins names is taken by two translations, if neither takes just it. -/
theorem proper_bind (hc : Framed sort c c') (hf : ∀ a, Framed sort' (f a) (f' a)) (l : Lexeme) (rest : List Lexeme)
    (b : β) (hl : l.token.joins = true) : (c >>= f) (l :: rest) ≠ .ok (b, rest) := by
  intro h
  obtain ⟨a, front, behind, htaken, ha, hb⟩ : ∃ a front behind, [l] = front ++ behind ∧ _ := hc.taken_bind hf h
  rcases front with _ | ⟨m, front⟩
  · obtain rfl : [l] = behind := htaken
    exact (hf a).proper l rest b hl hb
  · obtain ⟨rfl, hnil⟩ := List.cons.inj htaken
    obtain ⟨rfl, rfl⟩ := List.append_eq_nil_iff.mp hnil.symm
    exact hc.proper l rest a hl ha

theorem front_joins (hf : ∀ a, Framed sort' (f a) (f' a)) {a : α} {b : β} {behind tail : List Lexeme}
    (hb : f a (behind ++ tail) = .ok (b, tail)) (l : Lexeme) (hl : behind = [l]) : l.token.joins = false := by
  subst hl
  cases hjoins : l.token.joins with
  | false => rfl
  | true => exact absurd hb ((hf a).proper l tail b hjoins)

theorem bind (hc : Framed sort c c') (hf : ∀ a, Framed sort (f a) (f' a)) : Framed sort (c >>= f) (c' >>= f') where
  suffix := hc.suffix_bind hf
  proper := hc.proper_bind hf
  frame := by
    intro taken tail tail' b hexchange h
    obtain ⟨a, front, behind, rfl, ha, hb⟩ := hc.taken_bind hf h
    rw [List.append_assoc, bind_of_ok (hc.frame _ _ _ _ (hexchange.append (front_joins hf hb)) ha)]
    exact (hf a).frame _ _ _ _ hexchange hb

/-- Before a translation that always takes a lexeme, it does not matter where the first one would stop. -/
theorem bind_solid (hc : Framed Token.never c c') (hf : ∀ a, Solid sort (f a) (f' a)) :
    Solid sort (c >>= f) (c' >>= f') where
  suffix := hc.suffix_bind fun a => (hf a).toFramed
  proper := hc.proper_bind fun a => (hf a).toFramed
  frame := by
    intro taken tail tail' b hexchange h
    obtain ⟨a, front, behind, rfl, ha, hb⟩ := hc.taken_bind (fun a => (hf a).toFramed) h
    have hbehind : behind ≠ [] := by
      rintro rfl
      exact (hf a).takes tail b hb
    have hmid : Exchange Token.never (behind ++ tail) (behind ++ tail') :=
      .append_of_ne_nil hbehind (front_joins (fun a => (hf a).toFramed) hb)
    rw [List.append_assoc, bind_of_ok (hc.frame _ _ _ _ hmid ha)]
    exact (hf a).frame _ _ _ _ hexchange hb
  takes := by
    intro input b h
    obtain ⟨a, mid, ha, hb⟩ := bind_eq_ok h
    have hmid : mid = input :=
      (hc.suffix _ _ _ ha).eq_of_length_le ((hf a).suffix _ _ _ hb).length_le
    subst hmid
    exact (hf a).takes mid b hb

theorem pure (a : α) : Framed sort (Pure.pure a : Translation α) (Pure.pure a) where
  suffix := by
    intro input a' rest h
    cases h
    exact List.suffix_rfl
  proper := by
    intro l rest a' _ h
    exact List.cons_ne_self l rest (Prod.mk.inj (Except.ok.inj h)).2
  frame := by
    intro taken tail tail' a' _ h
    obtain ⟨rfl, htaken⟩ := Prod.mk.inj (Except.ok.inj h)
    obtain rfl := List.append_left_eq_self.mp htaken
    rfl

theorem map (hc : Framed sort c c') (g : α → β) :
    Framed sort (c >>= fun a => Pure.pure (g a)) (c' >>= fun a => Pure.pure (g a)) :=
  hc.bind fun a => pure (g a)

theorem complete (u : Setting) (production : Production) (tokens : List SourceToken) (value : Except Finding α) :
    Framed sort (Translation.complete u production tokens value) (Translation.complete u production tokens value) where
  suffix := by
    intro input a rest h
    obtain ⟨_, _, rfl⟩ := Translation.complete_eq_ok h
    exact List.suffix_rfl
  proper := by
    intro l rest a _ h
    obtain ⟨_, _, hrest⟩ := Translation.complete_eq_ok h
    exact List.cons_ne_self l rest hrest.symm
  frame := by
    intro taken tail tail' a _ h
    obtain ⟨hpermits, rfl, htaken⟩ := Translation.complete_eq_ok h
    obtain rfl := List.append_left_eq_self.mp htaken.symm
    exact Translation.complete_of_permits hpermits a tail'

/-- A lexeme that is taken if it is of some sort, which joins no names and at which nothing stops. -/
theorem acceptIf {p : Token → Bool} (hp : ∀ token, sort token = true → p token = false)
    (hjoins : ∀ token : Token, token.joins = true → p token = false) :
    Framed sort (read (Phrase.acceptIf p)) (read (Phrase.acceptIf p)) where
  suffix := suffix_read (.acceptIf p)
  proper := by
    intro l rest a hl h
    rw [read_acceptIf_of_neg (by rw [hjoins _ hl]; decide)] at h
    exact List.cons_ne_self l rest (Prod.mk.inj (Except.ok.inj h)).2
  frame := by
    intro taken tail tail' a hexchange h
    rcases taken with _ | ⟨l, taken⟩
    · -- the lexeme that was not taken is the same, or neither is taken
      have hkeep : ∀ l ∈ tail.head?, ¬p l.token = true := by
        intro l hl hpos
        obtain ⟨rest, rfl⟩ := List.head?_eq_some_iff.mp hl
        rw [List.nil_append, read_acceptIf_of_pos hpos] at h
        exact List.cons_ne_self l rest (Prod.mk.inj (Except.ok.inj h)).2.symm
      have hnone : ∀ {ls : List Lexeme}, (∀ l ∈ ls.head?, ¬p l.token = true) →
          read (Phrase.acceptIf p) ls = .ok (none, ls) := by
        rintro (_ | ⟨l, ls⟩) hls
        · rfl
        · exact read_acceptIf_of_neg (hls l rfl) ls
      obtain rfl : none = a := (Prod.mk.inj (Except.ok.inj ((hnone hkeep).symm.trans h))).1
      rcases hexchange.head_eq with hhead | ⟨_, hends⟩
      · exact hnone (hhead ▸ hkeep)
      · exact read_acceptIf_of_ends hp hends
    · by_cases hl : p l.token = true
      · rw [List.cons_append, read_acceptIf_of_pos hl] at h ⊢
        obtain ⟨rfl, htaken⟩ := Prod.mk.inj (Except.ok.inj h)
        obtain rfl := List.append_left_eq_self.mp htaken
        rfl
      · rw [List.cons_append, read_acceptIf_of_neg hl] at h
        obtain ⟨_, htaken⟩ := Prod.mk.inj (Except.ok.inj h)
        exact absurd (List.append_left_eq_self.mp htaken) (List.cons_ne_nil l taken)

theorem accept {sign : Sign} (hsign : sort (.sign sign) = false) (hjoins : (Token.sign sign).joins = false) :
    Framed sort (read (Phrase.accept sign)) (read (Phrase.accept sign)) := by
  refine acceptIf (fun token htoken => ?_) fun token htoken => ?_
  · rw [beq_eq_false_iff_ne]
    rintro rfl
    cases htoken.symm.trans hsign
  · rw [beq_eq_false_iff_ne]
    rintro rfl
    cases htoken.symm.trans hjoins

end Framed

theorem Token.isWord_of_joins {token : Token} (h : token.joins = true) (word : String) : token.isWord word = false := by
  cases token <;> first | rfl | cases h

theorem Framed.acceptWord {word : String} (hword : ∀ token, sort token = true → token.isWord word = false) :
    Framed sort (read (Phrase.acceptWord word)) (read (Phrase.acceptWord word)) :=
  acceptIf hword fun _ htoken => Token.isWord_of_joins htoken word

/-! ### Solid translations -/

namespace SolidAt

variable {l : Lexeme} {c c' : Translation α} {f f' : α → Translation β}

theorem of_error (h : ∀ input a rest, c (l :: input) ≠ .ok (a, rest)) : SolidAt sort l c c' where
  suffix input a rest hread := absurd hread (h input a rest)
  proper _ rest a := h rest a rest
  frame taken tail _ a _ hread := absurd hread (h (taken ++ tail) a tail)

theorem next_bind {f f' : SourceToken → Translation β} {expected : String} (hl : l.token.joins = false)
    (hf : ∀ token, Framed sort (f token) (f' token)) :
    SolidAt sort l (read (Phrase.next expected) >>= f) (read (Phrase.next expected) >>= f') where
  suffix input b rest h := (hf l.source).suffix input b rest h
  proper hjoins := by cases hjoins.symm.trans hl
  frame taken tail tail' b hexchange h := (hf l.source).frame taken tail tail' b hexchange h

/-- A look at the lexeme after the given one, which tells nothing where the translation stops. -/
theorem peekSecond_bind {f f' : Option Token → Translation β} (hf : ∀ token?, SolidAt sort l (f token?) (f' token?))
    (hends : ∀ token, sort token = true → f (some token) = f none ∧ f' (some token) = f' none) :
    SolidAt sort l (read Phrase.peekSecond >>= f) (read Phrase.peekSecond >>= f') where
  suffix input b rest h := (hf _).suffix input b rest h
  proper hjoins rest b h := (hf _).proper hjoins rest b h
  frame := by
    intro taken tail tail' b hexchange h
    have hnone : ∀ {ls : List Lexeme}, Ends sort ls → f (ls.head?.map Lexeme.token) = f none ∧
        f' (ls.head?.map Lexeme.token) = f' none := by
      rintro (_ | ⟨m, ls⟩) hls
      · exact ⟨rfl, rfl⟩
      · exact hends _ (hls m rfl)
    change f ((taken ++ tail).head?.map Lexeme.token) (l :: (taken ++ tail)) = _ at h
    change f' ((taken ++ tail').head?.map Lexeme.token) (l :: (taken ++ tail')) = _
    rcases taken with _ | ⟨m, taken⟩
    · rcases hexchange.head_eq with hhead | ⟨hstop, hstop'⟩
      · rw [List.nil_append, ← hhead]
        exact (hf _).frame [] tail tail' b hexchange h
      · rw [List.nil_append, (hnone hstop).1] at h
        rw [List.nil_append, (hnone hstop').2]
        exact (hf none).frame [] tail tail' b hexchange h
    · exact (hf _).frame (m :: taken) tail tail' b hexchange h

end SolidAt

namespace Solid

variable {c c' : Translation α} {f f' : α → Translation β}

theorem mono (h : Solid sort c c') (hsort : ∀ token, sort' token = true → sort token = true) : Solid sort' c c' :=
  ⟨h.toFramed.mono hsort, h.takes⟩

theorem of_at (hnil : ∀ a rest, c [] ≠ .ok (a, rest)) (h : ∀ l, SolidAt sort l c c') : Solid sort c c' where
  suffix := by
    rintro (_ | ⟨l, input⟩) a rest hread
    · exact absurd hread (hnil a rest)
    · exact ((h l).suffix input a rest hread).trans (List.suffix_cons l input)
  proper l rest a hl := (h l).proper hl rest a
  frame := by
    rintro (_ | ⟨l, taken⟩) tail tail' a hexchange hread
    · rcases tail with _ | ⟨l, tail⟩
      · exact absurd hread (hnil a [])
      · have hlength := ((h l).suffix tail a _ hread).length_le
        rw [List.length_cons] at hlength
        omega
    · exact (h l).frame taken tail tail' a hexchange hread
  takes := by
    rintro (_ | ⟨l, input⟩) a hread
    · exact hnil a [] hread
    · have hlength := ((h l).suffix input a _ hread).length_le
      rw [List.length_cons] at hlength
      omega

theorem solidAt (h : Solid sort c c') (l : Lexeme) : SolidAt sort l c c' where
  suffix := by
    intro input a rest hread
    rcases List.suffix_cons_iff.mp (h.suffix _ _ _ hread) with rfl | hsuffix
    · exact absurd hread (h.takes _ a)
    · exact hsuffix
  proper hl rest a := h.proper l rest a hl
  frame taken tail tail' a hexchange hread := h.frame (l :: taken) tail tail' a hexchange hread

theorem eq_nil (h : Solid sort c c') (a : α) (rest : List Lexeme) : c [] ≠ .ok (a, rest) := by
  intro hread
  obtain rfl := List.suffix_nil.mp (h.suffix _ _ _ hread)
  exact h.takes [] a hread

theorem bind (hc : Solid sort c c') (hf : ∀ a, Framed sort (f a) (f' a)) : Solid sort (c >>= f) (c' >>= f') where
  toFramed := hc.toFramed.bind hf
  takes := by
    intro input b h
    obtain ⟨a, mid, ha, hb⟩ := bind_eq_ok h
    have hmid : mid = input :=
      (hc.suffix _ _ _ ha).eq_of_length_le ((hf a).suffix _ _ _ hb).length_le
    subst hmid
    exact hc.takes mid a ha

theorem bind_solid (hc : Solid Token.never c c') (hf : ∀ a, Solid sort (f a) (f' a)) : Solid sort (c >>= f) (c' >>= f') :=
  hc.toFramed.bind_solid hf

theorem inside (h : Solid sort c c') : Solid Token.never c c' := h.mono nofun

theorem map (hc : Solid sort c c') (g : α → β) :
    Solid sort (c >>= fun a => Pure.pure (g a)) (c' >>= fun a => Pure.pure (g a)) :=
  hc.bind fun a => .pure (g a)

theorem of_error (h : ∀ input a rest, c input ≠ .ok (a, rest)) : Solid sort c c' :=
  of_at (h []) fun l => .of_error fun input => h (l :: input)

theorem fail (fault : SyntaxFault) : Solid sort (read (Phrase.fail fault)) c' :=
  of_error nofun

theorem unexpected (expected : String) : Solid sort (read (Phrase.unexpected expected)) c' :=
  of_error (by rintro (_ | ⟨l, input⟩) a rest h <;> cases h)

/-- A translation that takes a lexeme, whichever it is, before one that takes another. -/
theorem taking_bind (hsuffix : ∀ input a rest, c input = .ok (a, rest) → rest <:+ input)
    (htakes : ∀ input a, c input ≠ .ok (a, input))
    (hframe : ∀ taken tail tail' a, Exchange Token.never tail tail' → c (taken ++ tail) = .ok (a, tail) →
      c' (taken ++ tail') = .ok (a, tail'))
    (hf : ∀ a, Solid sort (f a) (f' a)) : Solid sort (c >>= f) (c' >>= f') := by
  have htwo : ∀ input b rest, (c >>= f) input = .ok (b, rest) →
      ∃ a front behind, input = front ++ (behind ++ rest) ∧ front ≠ [] ∧ behind ≠ [] ∧
        c (front ++ (behind ++ rest)) = .ok (a, behind ++ rest) ∧ f a (behind ++ rest) = .ok (b, rest) := by
    intro input b rest h
    obtain ⟨a, mid, ha, hb⟩ := bind_eq_ok h
    obtain ⟨behind, rfl⟩ := (hf a).suffix _ _ _ hb
    obtain ⟨front, rfl⟩ := hsuffix _ _ _ ha
    refine ⟨a, front, behind, rfl, ?_, ?_, ha, hb⟩
    · rintro rfl
      exact htakes _ a ha
    · rintro rfl
      exact (hf a).takes _ b hb
  refine ⟨⟨fun input b rest h => ?_, fun l rest b _ h => ?_, fun taken tail tail' b hexchange h => ?_⟩,
    fun input b h => ?_⟩
  · obtain ⟨a, front, behind, rfl, _⟩ := htwo _ _ _ h
    exact (List.suffix_append behind rest).trans (List.suffix_append front _)
  · obtain ⟨a, front, behind, hinput, hfront, hbehind, _⟩ := htwo _ _ _ h
    have hlength := congrArg List.length hinput
    have hfront := List.length_pos_iff.mpr hfront
    have hbehind := List.length_pos_iff.mpr hbehind
    simp only [List.length_cons, List.length_append] at hlength
    omega
  · obtain ⟨a, front, behind, htaken, _, hbehind, ha, hb⟩ := htwo _ _ _ h
    obtain rfl : taken = front ++ behind := List.append_cancel_right (by rw [htaken, List.append_assoc])
    have hmid : Exchange Token.never (behind ++ tail) (behind ++ tail') :=
      .append_of_ne_nil hbehind (Framed.front_joins (fun a => (hf a).toFramed) hb)
    rw [List.append_assoc, bind_of_ok (hframe _ _ _ _ hmid ha)]
    exact (hf a).frame _ _ _ _ hexchange hb
  · obtain ⟨a, front, behind, hinput, hfront, _⟩ := htwo _ _ _ h
    have hlength := congrArg List.length hinput
    have hfront := List.length_pos_iff.mpr hfront
    simp only [List.length_append] at hlength
    omega

theorem next_bind {f f' : SourceToken → Translation β} {expected : String}
    (hf : ∀ token, Solid sort (f token) (f' token)) :
    Solid sort (read (Phrase.next expected) >>= f) (read (Phrase.next expected) >>= f') := by
  refine of_at nofun fun l => ?_
  have hl := hf l.source
  exact ⟨hl.suffix, fun _ rest b => hl.takes rest b, hl.frame⟩

theorem peek_bind {f f' : Option Token → Translation β} (hnone : Solid sort (f none) (f' none))
    (hf : ∀ l : Lexeme, SolidAt sort l (f (some l.token)) (f' (some l.token))) :
    Solid sort (read Phrase.peek >>= f) (read Phrase.peek >>= f') :=
  of_at hnone.eq_nil fun l => ⟨(hf l).suffix, (hf l).proper, (hf l).frame⟩

theorem here_bind {f f' : SourceToken → Translation β} {expected : String}
    (hf : ∀ token, Solid sort (f token) (f' token)) :
    Solid sort (read (Phrase.here expected) >>= f) (read (Phrase.here expected) >>= f') :=
  of_at nofun fun l => ⟨((hf l.source).solidAt l).suffix, ((hf l.source).solidAt l).proper, ((hf l.source).solidAt l).frame⟩

/-- A lexeme that is taken if it is of some sort, before a translation that takes one if it is not. -/
theorem acceptIf_bind {p : Token → Bool} {f f' : Option SourceToken → Translation β}
    (hjoins : ∀ token : Token, token.joins = true → p token = false)
    (hsome : ∀ token, Framed sort (f (some token)) (f' (some token))) (hnone : Solid sort (f none) (f' none)) :
    Solid sort (read (Phrase.acceptIf p) >>= f) (read (Phrase.acceptIf p) >>= f') := by
  refine of_at hnone.eq_nil fun l => ?_
  by_cases hl : p l.token = true
  · have htake : ∀ (g : Option SourceToken → Translation β) input,
        (read (Phrase.acceptIf p) >>= g) (l :: input) = g (some l.source) input :=
      fun g input => bind_of_ok (read_acceptIf_of_pos hl input)
    refine ⟨fun input b rest h => ?_, fun hjoin => ?_, fun taken tail tail' b hexchange h => ?_⟩
    · rw [htake] at h
      exact (hsome _).suffix _ _ _ h
    · cases (hjoins _ hjoin).symm.trans hl
    · rw [htake] at h ⊢
      exact (hsome _).frame _ _ _ _ hexchange h
  · have hkeep : ∀ (g : Option SourceToken → Translation β) input,
        (read (Phrase.acceptIf p) >>= g) (l :: input) = g none (l :: input) :=
      fun g input => bind_of_ok (read_acceptIf_of_neg hl input)
    have hat := hnone.solidAt l
    refine ⟨fun input b rest h => ?_, fun hjoin rest b h => ?_, fun taken tail tail' b hexchange h => ?_⟩
    · rw [hkeep] at h
      exact hat.suffix _ _ _ h
    · rw [hkeep] at h
      exact hat.proper hjoin _ _ h
    · rw [hkeep] at h ⊢
      exact hat.frame _ _ _ _ hexchange h

theorem expectIf {p : Token → Bool} (hjoins : ∀ token : Token, token.joins = true → p token = false)
    (expected : String) : Solid sort (read (Phrase.expectIf p expected)) (read (Phrase.expectIf p expected)) := by
  rw [Phrase.expectIf, Translation.read_phrase_bind]
  exact acceptIf_bind hjoins (fun _ => .pure _) (unexpected expected)

theorem expectWord (word : String) : Solid sort (read (Phrase.expectWord word)) (read (Phrase.expectWord word)) :=
  expectIf (fun _ htoken => Token.isWord_of_joins htoken word) _

theorem require {sign : Sign} (hjoins : (Token.sign sign).joins = false) :
    Solid sort (read (Phrase.require sign)) (read (Phrase.require sign)) := by
  rw [Phrase.require, Translation.read_phrase_bind]
  refine (expectIf (fun token htoken => ?_) _).map _
  rw [beq_eq_false_iff_ne]
  rintro rfl
  cases htoken.symm.trans hjoins

end Solid

/-! ### Repetitions -/

/-- A phrase that takes the next lexeme or leaves it, whatever follows, and that leaves those at which a translation
stops or which join names. -/
structure Separates (sort : Token → Bool) (separator : Phrase (Option α)) : Prop where
  ends : ∀ tail, Ends sort tail → read separator tail = .ok (none, tail)
  cons : ∀ l, (∃ a, ∀ input, read separator (l :: input) = .ok (some a, input)) ∨
    ∀ input, read separator (l :: input) = .ok (none, l :: input)
  joins : ∀ l : Lexeme, l.token.joins = true → ∀ input, read separator (l :: input) = .ok (none, l :: input)

theorem separates_acceptIf {p : Token → Bool} (hp : ∀ token, sort token = true → p token = false)
    (hjoins : ∀ token : Token, token.joins = true → p token = false) : Separates sort (Phrase.acceptIf p) where
  ends _ := read_acceptIf_of_ends hp
  cons := by
    intro l
    by_cases h : p l.token = true
    · exact .inl ⟨l.source, fun input => read_acceptIf_of_pos h input⟩
    · exact .inr fun input => read_acceptIf_of_neg h input
  joins l hl := read_acceptIf_of_neg (by rw [hjoins _ hl]; decide)

theorem separates_accept {sign : Sign} (hsign : sort (.sign sign) = false) (hjoins : (Token.sign sign).joins = false) :
    Separates sort (Phrase.accept sign) := by
  refine separates_acceptIf (fun token htoken => ?_) fun token htoken => ?_
  · rw [beq_eq_false_iff_ne]
    rintro rfl
    cases htoken.symm.trans hsign
  · rw [beq_eq_false_iff_ne]
    rintro rfl
    cases htoken.symm.trans hjoins

theorem separates_acceptWord {word : String} (hword : ∀ token, sort token = true → token.isWord word = false) :
    Separates sort (Phrase.acceptWord word) :=
  separates_acceptIf hword fun _ htoken => Token.isWord_of_joins htoken word

section Repetition

variable {separator : Phrase (Option α)} {item item' : α → Translation β}

theorem repeatUpTo_of_none {tail : List Lexeme} (h : read separator tail = .ok (none, tail)) (fuel : Nat) :
    Translation.repeatUpTo separator item fuel tail = .ok ([], tail) := by
  cases fuel with
  | zero => rfl
  | succ fuel => exact bind_of_ok h

theorem repeatUpTo_nil (hseparator : Separates sort separator) (fuel : Nat) :
    Translation.repeatUpTo separator item fuel [] = .ok ([], []) :=
  repeatUpTo_of_none (hseparator.ends [] ends_nil) fuel

theorem repeatUpTo_suffix (hseparator : Separates sort separator)
    (hitem : ∀ a input b rest, item a input = .ok (b, rest) → rest <:+ input) {fuel : Nat} {input rest : List Lexeme}
    {bs : List β} (h : Translation.repeatUpTo separator item fuel input = .ok (bs, rest)) : rest <:+ input := by
  induction fuel generalizing input bs with
  | zero =>
    cases h
    exact List.suffix_rfl
  | succ fuel ih =>
    cases input with
    | nil =>
      rw [repeatUpTo_nil hseparator] at h
      cases h
      exact List.suffix_rfl
    | cons l input =>
      rw [Translation.repeatUpTo] at h
      rcases hseparator.cons l with ⟨a, htake⟩ | hkeep
      · rw [bind_of_ok (htake input)] at h
        obtain ⟨b, mid, hb, h⟩ := bind_eq_ok h
        obtain ⟨bs, mid', hbs, h⟩ := bind_eq_ok h
        cases h
        exact (ih hbs).trans ((hitem a _ _ _ hb).trans (List.suffix_cons _ _))
      · rw [bind_of_ok (hkeep input)] at h
        cases h
        exact List.suffix_rfl

theorem repeatUpTo_fuel (hseparator : Separates sort separator)
    (hitem : ∀ a input b rest, item a input = .ok (b, rest) → rest <:+ input) {fuel fuel' : Nat} {input : List Lexeme}
    (hfuel : input.length ≤ fuel) (hfuel' : input.length ≤ fuel') :
    Translation.repeatUpTo separator item fuel input = Translation.repeatUpTo separator item fuel' input := by
  induction fuel generalizing fuel' input with
  | zero =>
    obtain rfl := List.eq_nil_of_length_eq_zero (Nat.le_zero.mp hfuel)
    rw [repeatUpTo_nil hseparator, repeatUpTo_nil hseparator]
  | succ fuel ih =>
    cases input with
    | nil => rw [repeatUpTo_nil hseparator, repeatUpTo_nil hseparator]
    | cons l input =>
      rw [List.length_cons] at hfuel hfuel'
      obtain ⟨fuel', rfl⟩ := Nat.exists_eq_add_of_le' (Nat.one_le_of_lt hfuel')
      rw [Translation.repeatUpTo, Translation.repeatUpTo]
      rcases hseparator.cons l with ⟨a, htake⟩ | hkeep
      · rw [bind_of_ok (htake input), bind_of_ok (htake input)]
        dsimp only
        cases hb : item a input with
        | error stop => rw [bind_of_error hb, bind_of_error hb]
        | ok x =>
          obtain ⟨b, mid⟩ := x
          have hlength := (hitem a _ _ _ hb).length_le
          have hmore : Translation.repeatUpTo separator item fuel mid = Translation.repeatUpTo separator item fuel' mid :=
            ih (by omega) (by omega)
          rw [bind_of_ok hb, bind_of_ok hb]
          cases hbs : Translation.repeatUpTo separator item fuel' mid with
          | error stop => rw [bind_of_error hbs, bind_of_error (hmore.trans hbs)]
          | ok y => rw [bind_of_ok hbs, bind_of_ok (hmore.trans hbs)]
      · rw [bind_of_ok (hkeep input), bind_of_ok (hkeep input)]

theorem separator_of_repeatUpTo (hseparator : Separates sort separator)
    (hitem : ∀ a input b rest, item a input = .ok (b, rest) → rest <:+ input) {fuel : Nat} {tail : List Lexeme}
    (hfuel : tail.length ≤ fuel) {bs : List β}
    (h : Translation.repeatUpTo separator item fuel tail = .ok (bs, tail)) :
    read separator tail = .ok (none, tail) ∧ bs = [] := by
  rcases tail with _ | ⟨l, tail⟩
  · rw [repeatUpTo_nil hseparator] at h
    cases h
    exact ⟨hseparator.ends [] ends_nil, rfl⟩
  · rcases hseparator.cons l with ⟨a, htake⟩ | hkeep
    · obtain ⟨fuel, rfl⟩ := Nat.exists_eq_add_of_le' (Nat.one_le_of_lt hfuel)
      rw [Translation.repeatUpTo, bind_of_ok (htake tail)] at h
      obtain ⟨b, mid, hb, h⟩ := bind_eq_ok h
      obtain ⟨bs, mid', hbs, h⟩ := bind_eq_ok h
      cases h
      have hlength := ((repeatUpTo_suffix hseparator hitem hbs).trans (hitem a _ _ _ hb)).length_le
      rw [List.length_cons] at hlength
      omega
    · rw [repeatUpTo_of_none (hkeep tail)] at h
      cases h
      exact ⟨hkeep tail, rfl⟩

theorem Separates.exchange (hseparator : Separates sort separator) {tail tail' : List Lexeme}
    (hexchange : Exchange sort tail tail') (h : read separator tail = .ok (none, tail)) :
    read separator tail' = .ok (none, tail') := by
  have hsame : ∀ l ls ls', read separator (l :: ls) = .ok (none, l :: ls) →
      read separator (l :: ls') = .ok (none, l :: ls') := by
    intro l ls ls' hread
    rcases hseparator.cons l with ⟨a, htake⟩ | hkeep
    · cases (htake ls).symm.trans hread
    · exact hkeep ls'
  cases hexchange with
  | refl => exact h
  | head => exact hsame _ _ _ h
  | heads => exact hsame _ _ _ h
  | ends _ hends => exact hseparator.ends _ hends

/-- A repetition does the same before other lexemes, as long as there is fuel for every lexeme. -/
theorem repeatUpTo_frame (hseparator : Separates sort separator) (hitem : ∀ a, Framed sort (item a) (item' a))
    {tail tail' : List Lexeme} (hexchange : Exchange sort tail tail') {fuel fuel' : Nat} {taken : List Lexeme}
    {bs : List β} (hfuel : (taken ++ tail).length ≤ fuel) (hfuel' : (taken ++ tail').length ≤ fuel')
    (h : Translation.repeatUpTo separator item fuel (taken ++ tail) = .ok (bs, tail)) :
    Translation.repeatUpTo separator item' fuel' (taken ++ tail') = .ok (bs, tail') := by
  have hsuffix : ∀ a input b rest, item a input = .ok (b, rest) → rest <:+ input := fun a => (hitem a).suffix
  induction fuel generalizing fuel' taken bs with
  | zero =>
    obtain ⟨rfl, rfl⟩ := List.append_eq_nil_iff.mp (List.eq_nil_of_length_eq_zero (Nat.le_zero.mp hfuel))
    cases h
    exact repeatUpTo_of_none (hseparator.exchange hexchange (hseparator.ends [] ends_nil)) fuel'
  | succ fuel ih =>
    rcases taken with _ | ⟨l, taken⟩
    · obtain ⟨hnone, rfl⟩ := separator_of_repeatUpTo hseparator hsuffix hfuel h
      exact repeatUpTo_of_none (hseparator.exchange hexchange hnone) fuel'
    · obtain ⟨fuel', rfl⟩ : ∃ n, fuel' = n + 1 :=
        Nat.exists_eq_add_one_of_ne_zero (by rw [List.cons_append, List.length_cons] at hfuel'; omega)
      rw [Translation.repeatUpTo] at h ⊢
      rcases hseparator.cons l with ⟨a, htake⟩ | hkeep
      · rw [List.cons_append, bind_of_ok (htake _)] at h ⊢
        obtain ⟨b, mid, hb, h⟩ := bind_eq_ok h
        obtain ⟨bs, mid', hbs, h⟩ := bind_eq_ok h
        obtain ⟨rfl, rfl⟩ := Prod.mk.inj (Except.ok.inj h)
        obtain ⟨behind, rfl⟩ := repeatUpTo_suffix hseparator hsuffix hbs
        obtain ⟨front, hfront⟩ := (hitem a).suffix _ _ _ hb
        obtain rfl : front ++ behind = taken := List.append_cancel_right (by rw [List.append_assoc, hfront])
        rw [List.append_assoc] at hb ⊢
        have hjoins : ∀ m, behind = [m] → m.token.joins = false := by
          rintro m rfl
          cases hm : m.token.joins with
          | false => rfl
          | true =>
            rw [List.singleton_append, repeatUpTo_of_none (hseparator.joins m hm _)] at hbs
            exact absurd (Prod.mk.inj (Except.ok.inj hbs)).2 (List.cons_ne_self _ _)
        have hb' := (hitem a).frame front _ _ b (hexchange.append hjoins) hb
        simp only [List.length_cons, List.length_append] at hfuel hfuel'
        refine (bind_of_ok hb').trans ?_
        rw [bind_of_ok (ih (by rw [List.length_append]; omega) (by rw [List.length_append]; omega) hbs)]
        rfl
      · rw [List.cons_append, bind_of_ok (hkeep _)] at h
        obtain ⟨_, htaken⟩ := Prod.mk.inj (Except.ok.inj h)
        rw [← List.cons_append] at htaken
        exact absurd (List.append_left_eq_self.mp htaken) (List.cons_ne_nil l taken)

theorem Framed.repeatAfter (hseparator : Separates sort separator) (hitem : ∀ a, Framed sort (item a) (item' a)) :
    Framed sort (Translation.repeatAfter separator item) (Translation.repeatAfter separator item') where
  suffix _ _ _ := repeatUpTo_suffix hseparator fun a => (hitem a).suffix
  proper := by
    intro l rest bs hl h
    rw [Translation.repeatAfter, repeatUpTo_of_none (hseparator.joins l hl rest)] at h
    exact List.cons_ne_self l rest (Prod.mk.inj (Except.ok.inj h)).2
  frame _ _ _ _ hexchange := repeatUpTo_frame hseparator hitem hexchange (Nat.le_refl _) (Nat.le_refl _)

end Repetition

namespace Solid

variable {c c' : Translation α}

theorem commaSeparated (hcomma : sort (.sign .comma) = false) (hc : Solid sort c c') :
    Solid sort (Translation.commaSeparated c) (Translation.commaSeparated c') :=
  hc.bind fun _ => (Framed.repeatAfter (separates_accept hcomma rfl) fun _ => hc.toFramed).map _

theorem parenthesized (hc : Framed Token.never c c') :
    Solid sort (Translation.parenthesized c) (Translation.parenthesized c') := by
  have hopen : Solid Token.never (read (Phrase.require .leftParen)) (read (Phrase.require .leftParen)) := require rfl
  exact hopen.bind_solid fun _ => hc.bind_solid fun _ => (require rfl).map _

theorem listed (hc : Solid Token.never c c') :
    Solid sort (Translation.parenthesized (Translation.commaSeparated c))
      (Translation.parenthesized (Translation.commaSeparated c')) :=
  parenthesized (commaSeparated rfl hc).toFramed

theorem nested {inner? inner'? : Option (Translation α)}
    (h : ∀ inner, inner? = some inner → ∃ inner', inner'? = some inner' ∧ Solid sort inner inner')
    (opener : SourceToken) : Solid sort (Translation.nested inner? opener) (Translation.nested inner'? opener) := by
  cases inner? with
  | none => exact fail _
  | some inner =>
    obtain ⟨inner', rfl, hinner⟩ := h inner rfl
    exact hinner

end Solid

end GeoFilter
