import GeoFilter.Proofs.Phrase
import GeoFilter.Proofs.Translation
import GeoFilter.Proofs.Work

/-!
# Phrases and their translations

`Realizes u p s c Q`: on every list of lexemes the phrase `p`, with the work of its reductions done on the
stack `s`, comes to what the translation `c` says.  Both read the same lexemes and stop for the same reason;
if they come to values, these and the stack left behind satisfy `Q`.  In no case is the work stopped by a
defect.

There is one rule for each way of putting phrases together.  The rule for a phrase that is repeated asks for
an invariant of the values so far and the stack.
-/

namespace GeoFilter

open Assembly (run step steps)

/-- What a reading comes to, with the work of its reductions, against what a translation says. -/
inductive Realized (u : Setting) (Q : α → β → ResultsStack → Prop) (r : Reading α) (s : ResultsStack) :
    Except Stop (β × List Lexeme) → Prop
  | value {a : α} {b : β} {rest : List Lexeme} {s' : ResultsStack} (houtcome : r.outcome = .ok (a, rest))
      (hsteps : run (steps u.dialect u.kit r.reductions) s = .ok ((), s')) (hpost : Q a b s') :
      Realized u Q r s (.ok (b, rest))
  | fault {f : SyntaxFault} {s' : ResultsStack} (houtcome : r.outcome = .error f)
      (hsteps : run (steps u.dialect u.kit r.reductions) s = .ok ((), s')) :
      Realized u Q r s (.error (.fault f))
  | finding {f : Finding}
      (hsteps : run (steps u.dialect u.kit r.reductions) s = .error (.finding f)) :
      Realized u Q r s (.error (.finding f))
  | refused {red : Reduction} (hmem : red ∈ r.reductions) (hred : u.permits red = false) :
      Realized u Q r s (.error (.refused red))

/-- A phrase comes to what a translation says, on every list of lexemes. -/
def Realizes (u : Setting) (p : Phrase α) (s : ResultsStack) (c : Translation β)
    (Q : α → β → ResultsStack → Prop) : Prop :=
  ∀ input, Realized u Q (p input) s (c input)

/-- What the work of a reduction answers that makes a value, or finds that there is none. -/
def pushed (value : Except Finding β) (after : β → ResultsStack) :
    Except AssemblyFault (Unit × ResultsStack) :=
  match value with
  | .ok b => .ok ((), after b)
  | .error finding => .error (.finding finding)

/-- One entry more than on the given stack, which holds the value. -/
def Pushes (R : β → Entry → Prop) (s : ResultsStack) : α → β → ResultsStack → Prop :=
  fun _ b s' => ∃ e, R b e ∧ s' = e :: s

/-- A run of entries more than on the given stack, which hold the values in order. -/
def PushesRun (R : β → Entry → Prop) (s : ResultsStack) : α → β × List β → ResultsStack → Prop :=
  fun _ bs s' => ∃ es, List.Forall₂ R (bs.1 :: bs.2) es ∧ s' = es.reverse ++ s

/-- A phrase one level deeper comes to what its translation says, wherever the stack is settled; without a
level left there is neither. -/
def RealizesInner (u : Setting) (R : β → Entry → Prop) :
    Option (Phrase Unit) → Option (Translation β) → Prop :=
  Option.Rel fun inner direct => ∀ s : ResultsStack, s.Settled → Realizes u inner s direct (Pushes R s)

/-! ### Rules -/

namespace Realizes

variable {u : Setting} {s : ResultsStack} {p : Phrase α} {c : Translation β}
  {Q : α → β → ResultsStack → Prop}

theorem mono {R : α → β → ResultsStack → Prop} (h : Realizes u p s c Q)
    (hQ : ∀ a b s', Q a b s' → R a b s') : Realizes u p s c R := by
  intro input
  have hp := h input
  generalize c input = said at hp ⊢
  cases hp with
  | value houtcome hsteps hpost => exact .value houtcome hsteps (hQ _ _ _ hpost)
  | fault houtcome hsteps => exact .fault houtcome hsteps
  | finding hsteps => exact .finding hsteps
  | refused hmem hred => exact .refused hmem hred

theorem pure {a : α} {b : β} (h : Q a b s) : Realizes u (Pure.pure a) s (Pure.pure b) Q :=
  fun _ => .value rfl rfl h

theorem bind {f : α → Phrase γ} {g : β → Translation δ} {R : γ → δ → ResultsStack → Prop}
    (h : Realizes u p s c Q) (hf : ∀ a b s', Q a b s' → Realizes u (f a) s' (g b) R) :
    Realizes u (p >>= f) s (c >>= g) R := by
  intro input
  change Realized u R (Phrase.bind p f input) s (Translation.bind c g input)
  have hp := h input
  rcases hread : p input with ⟨done, outcome⟩
  rw [hread] at hp
  unfold Phrase.bind Translation.bind
  rw [hread]
  generalize c input = said at hp
  cases hp with
  | @value a b rest s' houtcome hsteps hpost =>
    dsimp only at houtcome hsteps
    subst houtcome
    -- The second reading starts on the stack that the first one left.
    have hrun : ∀ more, run (steps u.dialect u.kit (done ++ more)) s =
        run (steps u.dialect u.kit more) s' := by
      intro more
      rw [Assembly.run_steps_append, hsteps]
    have hg := hf a b s' hpost rest
    dsimp only
    generalize g b rest = next at hg ⊢
    cases hg with
    | value houtcome hsteps hpost => exact .value houtcome ((hrun _).trans hsteps) hpost
    | fault houtcome hsteps => exact .fault houtcome ((hrun _).trans hsteps)
    | finding hsteps => exact .finding ((hrun _).trans hsteps)
    | refused hmem hred => exact .refused (List.mem_append_right _ hmem) hred
  | fault houtcome hsteps =>
    dsimp only at houtcome
    subst houtcome
    exact .fault rfl hsteps
  | finding hsteps =>
    -- The work failed already, so what the phrase reads on makes no difference.
    dsimp only at hsteps
    refine .finding ?_
    cases outcome with
    | ok x =>
      dsimp only
      rw [Assembly.run_steps_append, hsteps]
    | error fault => exact hsteps
  | refused hmem hred =>
    refine .refused ?_ hred
    cases outcome with
    | ok x => exact List.mem_append_left _ hmem
    | error fault => exact hmem

theorem map_right {f : β → γ} {R : α → γ → ResultsStack → Prop}
    (h : Realizes u p s c fun a b s' => R a (f b) s') :
    Realizes u p s (c >>= fun b => Pure.pure (f b)) R := by
  intro input
  change Realized u R (p input) s (Translation.bind c _ input)
  have hp := h input
  unfold Translation.bind
  generalize c input = said at hp
  cases hp with
  | value houtcome hsteps hpost => exact .value houtcome hsteps hpost
  | fault houtcome hsteps => exact .fault houtcome hsteps
  | finding hsteps => exact .finding hsteps
  | refused hmem hred => exact .refused hmem hred

theorem read {p : Phrase α} (h : p.Quiet) (hQ : ∀ a, R a a s) :
    Realizes u p s (Translation.read p) R := by
  intro input
  have hdone := h input
  unfold Translation.read
  rcases hread : p input with ⟨done, ⟨fault⟩ | ⟨a, rest⟩⟩ <;> rw [hread] at hdone <;> subst hdone
  · exact .fault rfl rfl
  · exact .value rfl rfl (hQ a)

theorem read_bind {p : Phrase α} {f : α → Phrase γ} {g : α → Translation δ}
    {R : γ → δ → ResultsStack → Prop} (h : p.Quiet) (hf : ∀ a, Realizes u (f a) s (g a) R) :
    Realizes u (p >>= f) s (Translation.read p >>= g) R :=
  bind (Q := fun a b s' => b = a ∧ s' = s) (read h fun _ => ⟨rfl, rfl⟩) fun a b s' hab => by
    obtain ⟨rfl, rfl⟩ := hab
    exact hf b

/-- What is known of everything that a phrase reads may be used for what follows it. -/
theorem read_bind_of {p : Phrase α} {f : α → Phrase γ} {g : α → Translation δ}
    {R : γ → δ → ResultsStack → Prop} {P : α → Prop} (h : p.Quiet)
    (hP : ∀ input a rest, (p input).outcome = .ok (a, rest) → P a)
    (hf : ∀ a, P a → Realizes u (f a) s (g a) R) :
    Realizes u (p >>= f) s (Translation.read p >>= g) R := by
  refine bind (Q := fun a b s' => b = a ∧ P a ∧ s' = s) (fun input => ?_) fun a b s' hab => ?_
  · have hread := read (u := u) (s := s) (R := fun a b s' => b = a ∧ s' = s) h (fun _ => ⟨rfl, rfl⟩) input
    generalize Translation.read p input = said at hread ⊢
    cases hread with
    | value houtcome hsteps hpost =>
      exact .value houtcome hsteps ⟨hpost.1, hP _ _ _ houtcome, hpost.2⟩
    | fault houtcome hsteps => exact .fault houtcome hsteps
    | finding hsteps => exact .finding hsteps
    | refused hmem hred => exact .refused hmem hred
  · obtain ⟨rfl, ha, rfl⟩ := hab
    exact hf b ha

/-- Phrases that read nothing at all stop for the same reason, whatever they were to read. -/
theorem fail (fault : SyntaxFault) :
    Realizes u (Phrase.fail fault : Phrase α) s (Translation.read (Phrase.fail fault)) Q :=
  fun _ => .fault rfl rfl

theorem unexpected (expected : String) :
    Realizes u (Phrase.unexpected expected : Phrase α) s
      (Translation.read (Phrase.unexpected expected)) Q := by
  rintro (_ | ⟨l, rest⟩) <;> exact .fault rfl rfl

theorem ite {b : Prop} [Decidable b] {p' : Phrase α} {c' : Translation β} (hthen : Realizes u p s c Q)
    (helse : Realizes u p' s c' Q) : Realizes u (if b then p else p') s (if b then c else c') Q := by
  split
  · exact hthen
  · exact helse

theorem reduce {production : Production} {tokens : List SourceToken} {value : Except Finding β}
    {R : Unit → β → ResultsStack → Prop} {after : β → ResultsStack}
    (hstep : run (step u.dialect u.kit ⟨production, tokens⟩) s = pushed value after)
    (hR : ∀ b, value = .ok b → R () b (after b)) :
    Realizes u (Phrase.reduce production tokens) s (Translation.complete u production tokens value) R := by
  intro input
  have hsteps : run (steps u.dialect u.kit [⟨production, tokens⟩]) s = _ :=
    Assembly.run_steps_singleton ⟨production, tokens⟩
  rw [hstep] at hsteps
  unfold Translation.complete
  split
  case isTrue => cases value with
    | ok b => exact .value rfl hsteps (hR b rfl)
    | error finding => exact .finding hsteps
  case isFalse hpermit =>
    exact .refused (List.mem_singleton.mpr rfl) (by simpa using hpermit)

theorem reduce_ok {production : Production} {tokens : List SourceToken} {b : β} {s' : ResultsStack}
    {R : Unit → β → ResultsStack → Prop}
    (hstep : run (step u.dialect u.kit ⟨production, tokens⟩) s = .ok ((), s')) (hR : R () b s') :
    Realizes u (Phrase.reduce production tokens) s
      (Translation.complete u production tokens (.ok b)) R := by
  have hpushed : run (step u.dialect u.kit ⟨production, tokens⟩) s = pushed (.ok b) fun _ => s' := hstep
  refine reduce hpushed fun b' hb => ?_
  cases hb
  exact hR

theorem repeatUpTo {separator : Phrase (Option γ)} {phrase : γ → Phrase Unit} {item : γ → Translation β}
    {I : List β → ResultsStack → Prop} (hseparator : separator.Quiet)
    (hitem : ∀ a done s, I done s →
      Realizes u (phrase a) s (item a) fun _ b s' => I (done ++ [b]) s') :
    ∀ (fuel : Nat) (done : List β) (s : ResultsStack), I done s →
      Realizes u (Phrase.repeatUpTo separator phrase fuel) s
        (Translation.repeatUpTo separator item fuel) fun _ bs s' => I (done ++ bs) s' := by
  intro fuel
  induction fuel with
  | zero =>
    intro done s h
    exact pure (by rwa [List.append_nil])
  | succ fuel ih =>
    intro done s h
    refine read_bind hseparator fun a? => ?_
    cases a? with
    | none => exact pure (by rwa [List.append_nil])
    | some a =>
      refine (hitem a done s h).bind fun _ b s' hb => ?_
      refine map_right ((ih _ _ hb).mono fun _ bs s'' hbs => ?_)
      rwa [List.append_assoc, List.singleton_append] at hbs

theorem repeatAfter {separator : Phrase (Option γ)} {phrase : γ → Phrase Unit}
    {item : γ → Translation β} {I : List β → ResultsStack → Prop} (hseparator : separator.Quiet)
    (hitem : ∀ a done s, I done s →
      Realizes u (phrase a) s (item a) fun _ b s' => I (done ++ [b]) s')
    {done : List β} (h : I done s) :
    Realizes u (Phrase.repeatAfter separator phrase) s
      (Translation.repeatAfter separator item) fun _ bs s' => I (done ++ bs) s' :=
  fun input => repeatUpTo hseparator hitem input.length done s h input

/-- Phrases with commas between them leave a run of entries, if each of them leaves one entry on every
stack that is `ready` for it. -/
theorem commaSeparated {phrase : Phrase Unit} {item : Translation β} {R : β → Entry → Prop}
    {ready : ResultsStack → Prop} (hitem : ∀ s, ready s → Realizes u phrase s item (Pushes R s))
    (hready : ∀ s b e, ready s → R b e → ready (e :: s)) (hs : ready s) :
    Realizes u (Phrase.commaSeparated phrase) s (Translation.commaSeparated item) (PushesRun R s) := by
  -- So far the values are on the stack as a run, and the stack is ready for one more.
  let I : List β → ResultsStack → Prop := fun done s' =>
    ready s' ∧ ∃ es, List.Forall₂ R done es ∧ s' = es.reverse ++ s
  refine (hitem s hs).bind fun _ b s' hb => ?_
  obtain ⟨e, he, rfl⟩ := hb
  have hfirst : I [b] (e :: s) := ⟨hready _ _ _ hs he, [e], .cons he .nil, rfl⟩
  refine map_right ((repeatAfter (I := I) (.accept .comma) ?_ hfirst).mono fun _ bs s' hbs => hbs.2)
  rintro - done s' ⟨hready', es, hes, rfl⟩
  refine (hitem _ hready').mono fun _ b' s'' hb' => ?_
  obtain ⟨e', he', rfl⟩ := hb'
  refine ⟨hready _ _ _ hready' he', es ++ [e'], ?_, by simp⟩
  exact List.rel_append hes (.cons he' .nil)

/-- Phrases with commas between them leave a run of entries, if each of them always leaves one entry. -/
theorem commaSeparated_always {phrase : Phrase Unit} {item : Translation β} {R : β → Entry → Prop}
    (hitem : ∀ s, Realizes u phrase s item (Pushes R s)) :
    Realizes u (Phrase.commaSeparated phrase) s (Translation.commaSeparated item) (PushesRun R s) :=
  commaSeparated (fun s (_ : True) => hitem s) (fun _ _ _ _ _ => trivial) trivial

theorem parenthesized {body : Translation β} (h : Realizes u p s body Q) :
    Realizes u (Phrase.parenthesized p) s (Translation.parenthesized body) Q :=
  read_bind (.require _) fun _ => h.bind fun _ _ _ hab =>
    read_bind (.require _) fun _ => pure hab

theorem nested {inner? : Option (Phrase Unit)} {direct? : Option (Translation β)} {R : β → Entry → Prop}
    (h : RealizesInner u R inner? direct?) (hs : s.Settled) (opener : SourceToken) :
    Realizes u (Phrase.nested inner? opener) s (Translation.nested direct? opener) (Pushes R s) := by
  cases h with
  | none => exact fail _
  | some h => exact h s hs

end Realizes

end GeoFilter
