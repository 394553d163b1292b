import GeoFilter.Proofs.Framing

/-!
# Translations that stop where they can

A translation looks at the next two lexemes at most, and it never goes back.  So it makes the same value of all lexemes
that only differ behind two that it leaves (`Steady`); and a fault in its syntax is decided by the lexemes up to the one
behind the token where it is found, whatever follows (`Prompt`).

The token of a fault may stand before the lexemes of a part that is one level too deep; `Prompt before` tells of the
lexemes that were taken `before` it.
-/

namespace GeoFilter

open Translation (read bind_of_ok bind_eq_ok bind_of_error bind_eq_error read_of_ok read_eq_ok read_phrase_bind)

/-! ### Faults at a token -/

/-- A fault that is found at a token of the statement. -/
inductive SyntaxFault.At (token : SourceToken) : SyntaxFault → Prop
  | unexpected (expected : String) : At token (.unexpected expected token)
  | tooDeep : At token (.tooDeep token)

/-- Whether a fault is found by reading alone, at a token of the statement. -/
def Fault.isSyntactic : Fault → Bool
  | .unexpected .. | .tooDeep _ => true
  | _ => false

/-- A fault is decided by the lexemes up to one behind its token: with these in front the translation stops at it
whatever follows.  Nothing is said of a fault at the end or at the last lexeme. -/
def DecidedEarly (before : List Lexeme) (c : Translation α) (input : List Lexeme) (f : SyntaxFault) : Prop :=
  (∃ expected, f = .endReached expected) ∨
    ∃ done x rest, before ++ input = done ++ x :: rest ∧ f.At x.source ∧
      ∀ y, rest.head? = some y → ∀ input', done ++ [x, y] <+: before ++ input' → c input' = .error (.fault f)

theorem DecidedEarly.mono {before : List Lexeme} {c : Translation α} {d : Translation β} {input : List Lexeme}
    {f : SyntaxFault} (h : DecidedEarly before c input f)
    (hstop : ∀ input', c input' = .error (.fault f) → d input' = .error (.fault f)) :
    DecidedEarly before d input f := by
  rcases h with hend | ⟨done, x, rest, hinput, hat, hsame⟩
  · exact .inl hend
  · exact .inr ⟨done, x, rest, hinput, hat, fun y hy input' hbegins => hstop input' (hsame y hy input' hbegins)⟩

/-- A translation whose value depends on two of the lexemes that it leaves at most. -/
structure Steady (c : Translation α) : Prop where
  suffix : ∀ input a rest, c input = .ok (a, rest) → rest <:+ input
  keeps : ∀ input rest tail tail' a, 2 ≤ rest.length → c (input ++ tail) = .ok (a, rest ++ tail) →
    c (input ++ tail') = .ok (a, rest ++ tail')

/-- A translation whose faults are decided early; what its reductions find is no fault of syntax. -/
structure Prompt (before : List Lexeme) (c : Translation α) : Prop extends Steady c where
  faults : ∀ input f, c input = .error (.fault f) → DecidedEarly before c input f
  findings : ∀ input f, c input = .error (.finding f) → f.fault.isSyntactic = false

theorem Lexeme.exists_source (token : SourceToken) : ∃ l : Lexeme, l.source = token :=
  ⟨⟨.other token.text, token.place⟩, rfl⟩

/-! ### Steady translations -/

namespace Steady

variable {c : Translation α} {f : α → Translation β}

theorem bind (hc : Steady c) (hf : ∀ a, Steady (f a)) : Steady (c >>= f) where
  suffix := by
    intro input b rest h
    obtain ⟨a, mid, ha, hb⟩ := bind_eq_ok h
    exact ((hf a).suffix _ _ _ hb).trans (hc.suffix _ _ _ ha)
  keeps := by
    intro input rest tail tail' b hrest h
    obtain ⟨a, mid, ha, hb⟩ := bind_eq_ok h
    obtain ⟨more, rfl⟩ := (hf a).suffix _ _ _ hb
    rw [← List.append_assoc] at ha hb
    have hlength : 2 ≤ (more ++ rest).length := by
      rw [List.length_append]
      omega
    rw [bind_of_ok (hc.keeps _ _ _ tail' _ hlength ha)]
    exact (hf a).keeps _ _ _ tail' _ hrest hb

/-- No lexemes are left where there are none, so a steady translation is judged where there is one. -/
theorem of_cons (suffix : ∀ input a rest, c input = .ok (a, rest) → rest <:+ input)
    (keeps : ∀ l input rest tail tail' a, 2 ≤ rest.length → c (l :: (input ++ tail)) = .ok (a, rest ++ tail) →
      c (l :: (input ++ tail')) = .ok (a, rest ++ tail')) : Steady c where
  suffix := suffix
  keeps := by
    rintro (_ | ⟨l, input⟩) rest tail tail' a hrest h
    · have hlength := (suffix _ _ _ h).length_le
      rw [List.nil_append, List.length_append] at hlength
      omega
    · exact keeps l input rest tail tail' a hrest h

theorem of_framed (h : Framed Token.never c c) : Steady c where
  suffix := h.suffix
  keeps := by
    intro input rest tail tail' a htwo hread
    obtain ⟨taken, htaken⟩ := h.suffix _ _ _ hread
    obtain rfl : taken ++ rest = input := List.append_cancel_right (by rw [List.append_assoc, htaken])
    rw [List.append_assoc] at hread ⊢
    rcases rest with _ | ⟨x, _ | ⟨y, more⟩⟩
    · exact absurd htwo (by decide)
    · exact absurd htwo (by simp)
    · exact h.frame _ _ _ _ (.heads x y _ _) hread

theorem pure (a : α) : Steady (Pure.pure a : Translation α) := .of_framed (.pure a)

/-- A phrase that leaves all lexemes, and whose value depends on two of them at most. -/
theorem look {p : Phrase α} (hrest : ∀ input a rest, (p input).outcome = .ok (a, rest) → rest = input)
    (hsame : ∀ x y input input' a, (p (x :: y :: input)).outcome = .ok (a, x :: y :: input) →
      (p (x :: y :: input')).outcome = .ok (a, x :: y :: input')) : Steady (read p) where
  suffix := by
    intro input a rest h
    obtain rfl := hrest _ _ _ (read_eq_ok h)
    exact List.suffix_rfl
  keeps := by
    intro input rest tail tail' a htwo h
    obtain rfl : rest = input := List.append_cancel_right (hrest _ _ _ (read_eq_ok h))
    rcases rest with _ | ⟨x, _ | ⟨y, more⟩⟩
    · exact absurd htwo (by decide)
    · exact absurd htwo (by simp)
    · exact read_of_ok (hsame x y (more ++ tail) (more ++ tail') a (read_eq_ok h))

theorem next (expected : String) : Steady (read (Phrase.next expected)) := by
  refine of_cons (suffix_read (.next expected)) fun l input rest tail tail' a _ h => ?_
  obtain ⟨rfl, hrest⟩ := Prod.mk.inj (Except.ok.inj h)
  rw [← List.append_cancel_right hrest]
  rfl

theorem acceptIf (sort : Token → Bool) : Steady (read (Phrase.acceptIf sort)) := by
  refine of_cons (suffix_read (.acceptIf sort)) fun l input rest tail tail' a _ h => ?_
  by_cases hl : sort l.token = true
  · rw [read_acceptIf_of_pos hl] at h ⊢
    obtain ⟨rfl, hrest⟩ := Prod.mk.inj (Except.ok.inj h)
    rw [List.append_cancel_right hrest]
  · rw [read_acceptIf_of_neg hl] at h ⊢
    obtain ⟨rfl, hrest⟩ := Prod.mk.inj (Except.ok.inj h)
    rw [← List.cons_append] at hrest
    rw [← List.append_cancel_right hrest]
    rfl

end Steady

/-! ### Prompt translations -/

namespace Prompt

variable {before : List Lexeme} {c : Translation α} {f : α → Translation β}

/-- Lexemes that were taken before make no difference to a translation that does not tell of them. -/
theorem after (h : Prompt [] c) (before : List Lexeme) : Prompt before c where
  toSteady := h.toSteady
  faults := by
    intro input fault hfault
    rcases h.faults input fault hfault with hend | ⟨done, x, rest, hinput, hat, hsame⟩
    · exact .inl hend
    · refine .inr ⟨before ++ done, x, rest, ?_, hat, fun y hy input' hbegins => hsame y hy input' ?_⟩
      · rw [List.append_assoc, ← hinput, List.nil_append]
      · rw [List.append_assoc] at hbegins
        exact (List.prefix_append_right_inj before).mp hbegins
  findings := h.findings

theorem bind (hc : Prompt before c) (hf : ∀ a, Prompt [] (f a)) : Prompt before (c >>= f) where
  toSteady := hc.toSteady.bind fun a => (hf a).toSteady
  faults := by
    intro input fault h
    rcases bind_eq_error h with hstop | ⟨a, mid, ha, hstop⟩
    · exact (hc.faults input fault hstop).mono fun _ => bind_of_error
    · obtain ⟨taken, rfl⟩ := hc.suffix _ _ _ ha
      rcases (hf a).faults mid fault hstop with hend | ⟨done, x, rest, hmid, hat, hsame⟩
      · exact .inl hend
      · obtain rfl : mid = done ++ x :: rest := hmid
        refine .inr ⟨before ++ taken ++ done, x, rest, by simp, hat, fun y hy input' hbegins => ?_⟩
        obtain ⟨more, rfl⟩ := List.head?_eq_some_iff.mp hy
        obtain ⟨tail', htail'⟩ := hbegins
        -- the first part leaves the two lexemes at which the second one stops
        have hinput' : input' = taken ++ (done ++ [x, y]) ++ tail' := by
          simp only [List.append_assoc] at htail' ⊢
          exact (List.append_cancel_left htail').symm
        have htwo : 2 ≤ (done ++ [x, y]).length := by simp
        have hkeeps := hc.keeps (taken ++ (done ++ [x, y])) (done ++ [x, y]) more tail' a htwo (by simpa using ha)
        rw [hinput', bind_of_ok hkeeps]
        exact hsame y rfl _ ⟨tail', rfl⟩
  findings := by
    intro input finding h
    rcases bind_eq_error h with hstop | ⟨a, mid, _, hstop⟩
    · exact hc.findings input finding hstop
    · exact (hf a).findings mid finding hstop

theorem pure (a : α) : Prompt before (Pure.pure a : Translation α) where
  toSteady := .pure a
  faults := nofun
  findings := nofun

theorem map (hc : Prompt before c) (g : α → β) : Prompt before (c >>= fun a => Pure.pure (g a)) :=
  hc.bind fun a => pure (g a)

theorem complete {u : Setting} (production : Production) (tokens : List SourceToken) {value : Except Finding α}
    (h : ∀ finding, value = .error finding → finding.fault.isSyntactic = false) :
    Prompt before (Translation.complete u production tokens value) where
  suffix := by
    intro input a rest hread
    obtain ⟨_, _, rfl⟩ := Translation.complete_eq_ok hread
    exact List.suffix_rfl
  keeps := by
    intro input rest tail tail' a _ hread
    obtain ⟨hpermits, rfl, hrest⟩ := Translation.complete_eq_ok hread
    rw [List.append_cancel_right hrest]
    exact Translation.complete_of_permits hpermits a _
  faults := by
    intro input fault hread
    unfold Translation.complete at hread
    split at hread
    · cases value <;> cases hread
    · cases hread
  findings := by
    intro input finding hread
    unfold Translation.complete at hread
    split at hread
    · cases value with
      | ok a => cases hread
      | error finding' =>
        cases hread
        exact h finding rfl
    · cases hread

theorem complete_ok {u : Setting} (production : Production) (tokens : List SourceToken) (a : α) :
    Prompt before (Translation.complete u production tokens (.ok a)) :=
  complete production tokens nofun

theorem complete_ok_bind {u : Setting} (production : Production) (tokens : List SourceToken) (a : α)
    (hf : Prompt before (f a)) : Prompt before (Translation.complete u production tokens (.ok a) >>= f) := by
  by_cases hpermits : u.permits ⟨production, tokens⟩ = true
  · have hsame : Translation.complete u production tokens (.ok a) >>= f = f a :=
      funext fun input => bind_of_ok (Translation.complete_of_permits hpermits a input)
    rw [hsame]
    exact hf
  · have hstop : ∀ input, (Translation.complete u production tokens (.ok a) >>= f) input =
        .error (.refused ⟨production, tokens⟩) := fun input => bind_of_error (if_neg hpermits)
    refine ⟨⟨fun input b rest h => ?_, fun input rest tail tail' b _ h => ?_⟩, fun input fault h => ?_,
      fun input finding h => ?_⟩ <;> cases (hstop _).symm.trans h

/-! ### The next lexemes -/

theorem read_ne_finding {p : Phrase α} {input : List Lexeme} {finding : Finding}
    (h : read p input = .error (.finding finding)) : finding.fault.isSyntactic = false := by
  unfold Translation.read at h
  cases houtcome : (p input).outcome <;> rw [houtcome] at h <;> cases h

theorem of_steady {p : Phrase α} (h : Steady (read p)) (hok : ∀ input, ∃ x, (p input).outcome = .ok x) :
    Prompt before (read p) where
  toSteady := h
  faults := by
    intro input fault hread
    obtain ⟨x, hx⟩ := hok input
    rw [read_of_ok hx] at hread
    cases hread
  findings _ _ := read_ne_finding

theorem unexpected (expected : String) : Prompt before (read (Phrase.unexpected expected) : Translation α) where
  suffix := suffix_read (.unexpected expected)
  keeps := by
    intro input rest tail tail' a _ h
    cases hinput : input ++ tail <;> rw [hinput] at h <;> cases h
  faults := by
    rintro (_ | ⟨l, input⟩) fault h
    · cases h
      exact .inl ⟨expected, rfl⟩
    · cases h
      refine .inr ⟨before, l, input, rfl, .unexpected expected, fun y _ input' hbegins => ?_⟩
      obtain ⟨tail', htail'⟩ := (List.prefix_append_right_inj before).mp hbegins
      rw [← htail']
      rfl
  findings _ _ := read_ne_finding

theorem peek : Prompt before (read Phrase.peek) := by
  refine of_steady (.look (fun input a rest h => ?_) fun x y input input' a h => ?_) fun input => ⟨_, rfl⟩
  · cases h
    rfl
  · cases h
    rfl

theorem peekSecond : Prompt before (read Phrase.peekSecond) := by
  refine of_steady (.look (fun input a rest h => ?_) fun x y input input' a h => ?_) fun input => ⟨_, rfl⟩
  · cases h
    rfl
  · cases h
    rfl

theorem here (expected : String) : Prompt before (read (Phrase.here expected)) where
  toSteady := by
    refine .look (fun input a rest h => ?_) fun x y input input' a h => ?_
    · cases input <;> cases h
      rfl
    · cases h
      rfl
  faults := by
    rintro (_ | ⟨l, input⟩) fault h
    · cases h
      exact .inl ⟨expected, rfl⟩
    · cases h
  findings _ _ := read_ne_finding

/-- Lexemes that start like others up to behind the first one have the same first one. -/
theorem exists_cons {l x y : Lexeme} {ls done rest input' : List Lexeme} (h : l :: ls = done ++ x :: rest)
    (hbegins : done ++ [x, y] <+: input') : ∃ ls', input' = l :: ls' := by
  obtain ⟨tail', rfl⟩ := hbegins
  cases done with
  | nil =>
    cases h
    exact ⟨_, rfl⟩
  | cons d done =>
    cases h
    exact ⟨_, rfl⟩

theorem next_bind {f : SourceToken → Translation β} {expected : String} (hf : ∀ l : Lexeme, Prompt [l] (f l.source)) :
    Prompt [] (read (Phrase.next expected) >>= f) where
  toSteady := by
    refine (Steady.next expected).bind fun token => ?_
    obtain ⟨l, rfl⟩ := Lexeme.exists_source token
    exact (hf l).toSteady
  faults := by
    rintro (_ | ⟨l, ls⟩) fault h
    · cases h
      exact .inl ⟨expected, rfl⟩
    · rcases (hf l).faults ls fault h with hend | ⟨done, x, rest, hinput, hat, hsame⟩
      · exact .inl hend
      · refine .inr ⟨done, x, rest, hinput, hat, fun y hy input' hbegins => ?_⟩
        obtain ⟨ls', rfl⟩ := exists_cons hinput hbegins
        exact hsame y hy ls' hbegins
  findings := by
    rintro (_ | ⟨l, ls⟩) finding h
    · cases h
    · exact (hf l).findings ls finding h

theorem next (expected : String) : Prompt before (read (Phrase.next expected)) where
  toSteady := .next expected
  faults := by
    rintro (_ | ⟨l, input⟩) fault h
    · cases h
      exact .inl ⟨expected, rfl⟩
    · cases h
  findings _ _ := read_ne_finding

theorem acceptIf_bind {sort : Token → Bool} {f : Option SourceToken → Translation β}
    (hsome : ∀ l : Lexeme, Prompt [l] (f (some l.source))) (hnone : Prompt [] (f none)) :
    Prompt [] (read (Phrase.acceptIf sort) >>= f) where
  toSteady := by
    refine (Steady.acceptIf sort).bind fun token? => ?_
    cases token? with
    | none => exact hnone.toSteady
    | some token =>
      obtain ⟨l, rfl⟩ := Lexeme.exists_source token
      exact (hsome l).toSteady
  faults := by
    rintro (_ | ⟨l, ls⟩) fault h
    · rcases hnone.faults [] fault h with hend | ⟨done, x, rest, hinput, _⟩
      · exact .inl hend
      · simp at hinput
    · by_cases hl : sort l.token = true
      · rw [bind_of_ok (read_acceptIf_of_pos hl ls)] at h
        rcases (hsome l).faults ls fault h with hend | ⟨done, x, rest, hinput, hat, hsame⟩
        · exact .inl hend
        · refine .inr ⟨done, x, rest, hinput, hat, fun y hy input' hbegins => ?_⟩
          obtain ⟨ls', rfl⟩ := exists_cons hinput hbegins
          rw [bind_of_ok (read_acceptIf_of_pos hl ls')]
          exact hsame y hy ls' hbegins
      · rw [bind_of_ok (read_acceptIf_of_neg hl ls)] at h
        rcases hnone.faults _ fault h with hend | ⟨done, x, rest, hinput, hat, hsame⟩
        · exact .inl hend
        · refine .inr ⟨done, x, rest, hinput, hat, fun y hy input' hbegins => ?_⟩
          obtain ⟨ls', rfl⟩ := exists_cons hinput hbegins
          rw [bind_of_ok (read_acceptIf_of_neg hl ls')]
          exact hsame y hy _ hbegins
  findings := by
    intro input finding h
    rcases bind_eq_error h with hstop | ⟨token?, mid, _, hstop⟩
    · exact read_ne_finding hstop
    · cases token? with
      | none => exact hnone.findings mid finding hstop
      | some token =>
        obtain ⟨l, rfl⟩ := Lexeme.exists_source token
        exact (hsome l).findings mid finding hstop

theorem acceptIf (sort : Token → Bool) : Prompt [] (read (Phrase.acceptIf sort)) :=
  of_steady (.acceptIf sort) fun input => by
    cases input with
    | nil => exact ⟨_, rfl⟩
    | cons l ls =>
      unfold Phrase.acceptIf
      dsimp only
      split <;> exact ⟨_, rfl⟩

theorem expectIf (sort : Token → Bool) (expected : String) : Prompt [] (read (Phrase.expectIf sort expected)) := by
  rw [Phrase.expectIf, read_phrase_bind]
  exact acceptIf_bind (fun l => pure l.source) (unexpected expected)

theorem expectWord (word : String) : Prompt [] (read (Phrase.expectWord word)) := expectIf _ _

theorem accept (sign : Sign) : Prompt [] (read (Phrase.accept sign)) := acceptIf _

theorem acceptWord (word : String) : Prompt [] (read (Phrase.acceptWord word)) := acceptIf _

theorem require (sign : Sign) : Prompt [] (read (Phrase.require sign)) := by
  rw [Phrase.require, read_phrase_bind]
  exact (expectIf _ _).map _

/-! ### Repetitions -/

section Repetition

variable {separator : Phrase (Option γ)} {item : γ → Translation β}

theorem of_separates (h : Separates Token.never separator) : Prompt before (read separator) where
  toSteady := by
    refine .of_cons ?_ fun l input rest tail tail' a _ hread => ?_
    · rintro (_ | ⟨l, input⟩) a rest hread
      · rw [h.ends [] ends_nil] at hread
        cases hread
        exact List.suffix_rfl
      · rcases h.cons l with ⟨a', htake⟩ | hkeep
        · rw [htake input] at hread
          cases hread
          exact List.suffix_cons _ _
        · rw [hkeep input] at hread
          cases hread
          exact List.suffix_rfl
    · rcases h.cons l with ⟨a', htake⟩ | hkeep
      · rw [htake] at hread ⊢
        obtain ⟨rfl, hrest⟩ := Prod.mk.inj (Except.ok.inj hread)
        rw [List.append_cancel_right hrest]
      · rw [hkeep] at hread ⊢
        obtain ⟨rfl, hrest⟩ := Prod.mk.inj (Except.ok.inj hread)
        rw [← List.cons_append] at hrest
        rw [← List.append_cancel_right hrest]
        rfl
  faults := by
    rintro (_ | ⟨l, input⟩) fault hread
    · rw [h.ends [] ends_nil] at hread
      cases hread
    · rcases h.cons l with ⟨a', htake⟩ | hkeep
      · rw [htake input] at hread
        cases hread
      · rw [hkeep input] at hread
        cases hread
  findings _ _ := read_ne_finding

theorem repeatUpTo (hseparator : Prompt [] (read separator)) (hitem : ∀ a, Prompt [] (item a)) (fuel : Nat) :
    Prompt [] (Translation.repeatUpTo separator item fuel) := by
  induction fuel with
  | zero => exact pure []
  | succ fuel ih =>
    refine hseparator.bind fun a? => ?_
    cases a? with
    | none => exact pure []
    | some a => exact (hitem a).bind fun b => ih.map _

theorem repeatUpTo_error {fuel fuel' : Nat} (hfuel : fuel ≤ fuel') {input : List Lexeme} {stop : Stop}
    (h : Translation.repeatUpTo separator item fuel input = .error stop) :
    Translation.repeatUpTo separator item fuel' input = .error stop := by
  induction fuel generalizing fuel' input with
  | zero => cases h
  | succ fuel ih =>
    obtain ⟨fuel', rfl⟩ := Nat.exists_eq_add_of_le' (Nat.one_le_of_lt hfuel)
    rcases bind_eq_error h with hstop | ⟨a?, mid, ha, hstop⟩
    · exact bind_of_error hstop
    · rw [Translation.repeatUpTo, bind_of_ok ha]
      cases a? with
      | none => cases hstop
      | some a =>
        rcases bind_eq_error hstop with hstop | ⟨b, mid', hb, hstop⟩
        · exact bind_of_error hstop
        · rcases bind_eq_error hstop with hstop | ⟨bs, mid'', _, hstop⟩
          · exact (bind_of_ok hb).trans (bind_of_error (ih (Nat.le_of_succ_le_succ hfuel) hstop))
          · cases hstop

theorem repeatAfter (hseparator : Separates Token.never separator) (hitem : ∀ a, Prompt [] (item a)) :
    Prompt [] (Translation.repeatAfter separator item) where
  suffix input a rest h := (repeatUpTo (of_separates hseparator) hitem input.length).suffix input a rest h
  keeps := by
    intro input rest tail tail' bs htwo h
    let fuel := max (input ++ tail).length (input ++ tail').length
    have hsuffix : ∀ a input b rest, item a input = .ok (b, rest) → rest <:+ input := fun a => (hitem a).suffix
    have hrepeat := (repeatUpTo (of_separates hseparator) hitem fuel).keeps input rest tail tail' bs htwo
    unfold Translation.repeatAfter at h ⊢
    rw [repeatUpTo_fuel hseparator hsuffix (Nat.le_refl _) (Nat.le_max_left _ _ : _ ≤ fuel)] at h
    rw [repeatUpTo_fuel hseparator hsuffix (Nat.le_refl _) (Nat.le_max_right _ _ : _ ≤ fuel)]
    exact hrepeat h
  faults := by
    intro input fault h
    rcases (repeatUpTo (of_separates hseparator) hitem input.length).faults input fault h with
      hend | ⟨done, x, rest, hinput, hat, hsame⟩
    · exact .inl hend
    · refine .inr ⟨done, x, rest, hinput, hat, fun y hy input' hbegins => ?_⟩
      have hstop := hsame y hy input' hbegins
      rcases Nat.le_total input.length input'.length with hle | hle
      · exact repeatUpTo_error hle hstop
      · exact (repeatUpTo_fuel hseparator (fun a => (hitem a).suffix) (Nat.le_refl _) hle).trans hstop
  findings input finding h := (repeatUpTo (of_separates hseparator) hitem input.length).findings input finding h

end Repetition

theorem commaSeparated (hc : Prompt [] c) : Prompt [] (Translation.commaSeparated c) :=
  hc.bind fun _ => (repeatAfter (separates_accept rfl rfl) fun _ => hc).map _

theorem parenthesized (hc : Prompt [] c) : Prompt [] (Translation.parenthesized c) :=
  (require _).bind fun _ => hc.bind fun _ => (require _).map _

/-! ### Levels -/

theorem tooDeep (l : Lexeme) : Prompt [l] (read (Phrase.fail (.tooDeep l.source)) : Translation α) where
  suffix := nofun
  keeps := nofun
  faults := by
    intro input fault h
    cases h
    exact .inr ⟨[], l, input, rfl, .tooDeep, fun _ _ _ _ => rfl⟩
  findings _ _ := read_ne_finding

theorem require_tooDeep (l : Lexeme) (sign : Sign) :
    Prompt [l] (read (Phrase.require sign) >>= fun _ => (read (Phrase.fail (.tooDeep l.source)) : Translation α)) where
  toSteady := (require sign).toSteady.bind fun _ => (tooDeep l).toSteady
  faults := by
    intro input fault h
    rcases bind_eq_error h with hstop | ⟨_, mid, hrequire, hstop⟩
    · exact (((require sign).after [l]).faults input fault hstop).mono fun _ => bind_of_error
    · cases hstop
      obtain ⟨place, rfl⟩ := Phrase.require_eq_ok (read_eq_ok hrequire)
      refine .inr ⟨[], l, _, rfl, .tooDeep, fun y hy input' hbegins => ?_⟩
      obtain ⟨tail', htail'⟩ := hbegins
      cases hy
      obtain rfl : ⟨.sign sign, place⟩ :: tail' = input' := (List.cons.inj htail').2
      exact bind_of_ok (read_of_ok (require_sign sign place tail'))
  findings := by
    intro input finding h
    rcases bind_eq_error h with hstop | ⟨_, mid, _, hstop⟩
    · exact read_ne_finding hstop
    · cases hstop

variable {inner? : Option (Translation α)} (hinner : ∀ inner, inner? = some inner → Prompt [] inner)

include hinner

theorem nested (l : Lexeme) : Prompt [l] (Translation.nested inner? l.source) := by
  cases inner? with
  | none => exact tooDeep l
  | some inner => exact (hinner inner rfl).after [l]

theorem parenthesized_nested (l : Lexeme) :
    Prompt [l] (Translation.parenthesized (Translation.commaSeparated (Translation.nested inner? l.source))) := by
  cases inner? with
  | none => exact require_tooDeep l .leftParen
  | some inner => exact (parenthesized (commaSeparated (hinner inner rfl))).after [l]

theorem here_nested_bind (expected : String) {f : SourceToken → α → Translation β}
    (hf : ∀ token a, Prompt [] (f token a)) :
    Prompt [] (read (Phrase.here expected) >>= fun token => Translation.nested inner? token >>= f token) where
  toSteady := by
    have hhere : Prompt [] (read (Phrase.here expected)) := here expected
    refine hhere.toSteady.bind fun token => ?_
    obtain ⟨l, rfl⟩ := Lexeme.exists_source token
    exact ((nested hinner l).bind (hf _)).toSteady
  faults := by
    rintro (_ | ⟨l, input⟩) fault h
    · cases h
      exact .inl ⟨expected, rfl⟩
    · cases inner? with
      | none =>
        cases h
        refine .inr ⟨[], l, input, rfl, .tooDeep, fun y _ input' hbegins => ?_⟩
        obtain ⟨tail', rfl⟩ := hbegins
        rfl
      | some inner =>
        rcases ((hinner inner rfl).bind (hf l.source)).faults (l :: input) fault h with
          hend | ⟨done, x, rest, hinput, hat, hsame⟩
        · exact .inl hend
        · refine .inr ⟨done, x, rest, hinput, hat, fun y hy input' hbegins => ?_⟩
          obtain ⟨ls', rfl⟩ := exists_cons hinput hbegins
          exact hsame y hy _ hbegins
  findings := by
    rintro (_ | ⟨l, input⟩) finding h
    · cases h
    · exact ((nested hinner l).bind (hf l.source)).findings (l :: input) finding h

end Prompt

end GeoFilter
