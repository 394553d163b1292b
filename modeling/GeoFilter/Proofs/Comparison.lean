import GeoFilter.Proofs.Phrase
import GeoFilter.Proofs.Translation

/-!
# Comparing translations

`Alike w c c'`: wherever the translation `c` makes a value, `c'` makes the same value of the same lexemes,
and wherever `c` stops, the comparison `w` allows what `c'` does.  Most of the grammar is translated in the
same way in both settings of a comparison, so there is one rule for each way of putting translations
together.
-/

namespace GeoFilter

/-! ### Comparisons -/

/-- Whether a fault is that of a text which is no number of a reference system. -/
def Fault.isInvalidSrid : Fault → Bool
  | .invalidSrid _ => true
  | _ => false

/-- Why a translation made no value, if it made none. -/
def stopOf : Except Stop α → Option Stop
  | .ok _ => none
  | .error stop => some stop

theorem eq_error_of_stopOf {said : Except Stop α} {stop : Stop} (h : stopOf said = some stop) :
    said = .error stop := by
  cases said with
  | ok a => cases h
  | error stop' =>
    cases h
    rfl

/-- A comparison of the translations of some lexemes in two settings with one toolkit.  It tells what the
translation on the right may do where the one on the left stops: stop as well, or make a value and stop
later, or not at all. -/
structure Comparison where
  lexemes : List Lexeme
  left : Setting
  right : Setting
  allows : Stop → Option Stop → Prop
  kit_eq : right.kit = left.kit
  permits : ∀ r, right.permits r = true
  allows_of_none : ∀ stop stop?, allows stop none → allows stop stop?
  allows_fault : ∀ f, allows (.fault f) (some (.fault f))
  allows_finding : ∀ f : Finding, f.fault.isInvalidSrid = false → allows (.finding f) (some (.finding f))
  allows_refused : ∀ r stop?, left.permits r = false → allows (.refused r) stop?

/-- Whether a value on the left is also that on the right, and what happens on the right is allowed where there
is none on the left. -/
def Comparison.AllowsValue (w : Comparison) (value value' : Except Finding α) : Prop :=
  (∀ a, value = .ok a → value' = .ok a) ∧
    ∀ f, value = .error f → w.allows (.finding f) (stopOf (value'.mapError Stop.finding))

theorem Comparison.AllowsValue.refl {w : Comparison} {value : Except Finding α}
    (h : ∀ f, value = .error f → w.allows (.finding f) (some (.finding f))) :
    w.AllowsValue value value := by
  refine ⟨fun _ ha => ha, fun f hf => ?_⟩
  rw [hf]
  exact h f hf

/-- What one translation comes to, against what another comes to. -/
inductive Related (w : Comparison) : Except Stop (α × List Lexeme) → Except Stop (α × List Lexeme) → Prop
  | value {a : α} {rest : List Lexeme} (hrest : rest <:+ w.lexemes) :
      Related w (.ok (a, rest)) (.ok (a, rest))
  | stop {stop : Stop} {said : Except Stop (α × List Lexeme)} (h : w.allows stop (stopOf said)) :
      Related w (.error stop) said

/-- Two translations come to the same values, wherever in the lexemes they start. -/
def Alike (w : Comparison) (c c' : Translation α) : Prop :=
  ∀ input, input <:+ w.lexemes → Related w (c input) (c' input)

namespace Alike

variable {w : Comparison} {c c' : Translation α}

theorem pure (a : α) : Alike w (Pure.pure a) (Pure.pure a) :=
  fun _ hinput => .value hinput

theorem bind {f f' : α → Translation β} (h : Alike w c c') (hf : ∀ a, Alike w (f a) (f' a)) :
    Alike w (c >>= f) (c' >>= f') := by
  intro input hinput
  change Related w (Translation.bind c f input) (Translation.bind c' f' input)
  have hc := h input hinput
  unfold Translation.bind
  generalize c input = said, c' input = said' at hc
  cases hc with
  | value hrest => exact hf _ _ hrest
  | stop hstop =>
    refine .stop ?_
    cases said' with
    | ok x => exact w.allows_of_none _ _ hstop
    | error stop => exact hstop

theorem map {f : α → β} (h : Alike w c c') :
    Alike w (c >>= fun a => Pure.pure (f a)) (c' >>= fun a => Pure.pure (f a)) :=
  h.bind fun a => pure (f a)

theorem read {p : Phrase α} (hp : p.Shortens) : Alike w (Translation.read p) (Translation.read p) := by
  intro input hinput
  unfold Translation.read
  cases houtcome : (p input).outcome with
  | ok x => exact .value ((hp input x.1 x.2 houtcome).trans hinput)
  | error fault => exact .stop (w.allows_fault fault)

theorem read_bind {p : Phrase α} {f f' : α → Translation β} (hp : p.Shortens)
    (hf : ∀ a, Alike w (f a) (f' a)) :
    Alike w (Translation.read p >>= f) (Translation.read p >>= f') :=
  (read hp).bind hf

/-- What is known of everything that a phrase reads may be used for what follows it. -/
theorem read_bind_of {p : Phrase α} {f f' : α → Translation β} {P : α → Prop} (hp : p.Shortens)
    (hP : ∀ input a rest, input <:+ w.lexemes → (p input).outcome = .ok (a, rest) → P a)
    (hf : ∀ a, P a → Alike w (f a) (f' a)) :
    Alike w (Translation.read p >>= f) (Translation.read p >>= f') := by
  intro input hinput
  change Related w (Translation.bind _ f input) (Translation.bind _ f' input)
  unfold Translation.bind Translation.read
  cases houtcome : (p input).outcome with
  | ok x => exact hf x.1 (hP input x.1 x.2 hinput houtcome) _ ((hp input x.1 x.2 houtcome).trans hinput)
  | error fault => exact .stop (w.allows_fault fault)

theorem unexpected (expected : String) :
    Alike w (Translation.read (Phrase.unexpected expected) : Translation α)
      (Translation.read (Phrase.unexpected expected)) :=
  read (.unexpected expected)

theorem ite {b : Prop} [Decidable b] {d d' : Translation α} (hthen : Alike w c c')
    (helse : Alike w d d') : Alike w (if b then c else d) (if b then c' else d') := by
  split
  · exact hthen
  · exact helse

theorem complete_of {production production' : Production} {tokens tokens' : List SourceToken}
    {value value' : Except Finding α} (h : w.AllowsValue value value') :
    Alike w (Translation.complete w.left production tokens value)
      (Translation.complete w.right production' tokens' value') := by
  intro input hinput
  unfold Translation.complete
  rw [if_pos (w.permits _)]
  split
  · cases value with
    | ok a =>
      rw [h.1 a rfl]
      exact .value hinput
    | error f =>
      refine .stop ?_
      have hf := h.2 f rfl
      cases value' with
      | ok a => exact hf
      | error f' => exact hf
  · rename_i hpermit
    exact .stop (w.allows_refused _ _ (by simpa using hpermit))

theorem complete {production : Production} {tokens : List SourceToken} {value : Except Finding α}
    (h : ∀ f, value = .error f → f.fault.isInvalidSrid = false) :
    Alike w (Translation.complete w.left production tokens value)
      (Translation.complete w.right production tokens value) :=
  complete_of (.refl fun f hf => w.allows_finding f (h f hf))

theorem complete_ok {production : Production} {tokens : List SourceToken} (a : α) :
    Alike w (Translation.complete w.left production tokens (.ok a))
      (Translation.complete w.right production tokens (.ok a)) :=
  complete fun f hf => by cases hf

theorem complete_made {production : Production} {tokens : List SourceToken} {a a' : α} (h : a' = a) :
    Alike w (Translation.complete w.left production tokens (.ok a))
      (Translation.complete w.right production tokens (.ok a')) := by
  rw [h]
  exact complete_ok a

theorem complete_left {production : Production} {tokens : List SourceToken} {a : α}
    {f : α → Translation β} {d : Translation β} (h : Alike w (f a) d) :
    Alike w (Translation.complete w.left production tokens (.ok a) >>= f) d := by
  intro input hinput
  change Related w (Translation.bind _ f input) (d input)
  unfold Translation.bind Translation.complete
  by_cases hpermit : w.left.permits ⟨production, tokens⟩ = true
  · rw [if_pos hpermit]
    exact h input hinput
  · rw [if_neg hpermit]
    exact .stop (w.allows_refused _ _ (by simpa using hpermit))

theorem repeatUpTo {separator : Phrase (Option α)} {item item' : α → Translation β}
    (hseparator : separator.Shortens) (hitem : ∀ a, Alike w (item a) (item' a)) (fuel : Nat) :
    Alike w (Translation.repeatUpTo separator item fuel) (Translation.repeatUpTo separator item' fuel) := by
  induction fuel with
  | zero => exact pure []
  | succ fuel ih =>
    refine read_bind hseparator fun a? => ?_
    cases a? with
    | none => exact pure []
    | some a => exact (hitem a).bind fun b => ih.map

theorem repeatAfter {separator : Phrase (Option α)} {item item' : α → Translation β}
    (hseparator : separator.Shortens) (hitem : ∀ a, Alike w (item a) (item' a)) :
    Alike w (Translation.repeatAfter separator item) (Translation.repeatAfter separator item') :=
  fun input hinput => repeatUpTo hseparator hitem input.length input hinput

theorem commaSeparated (h : Alike w c c') :
    Alike w (Translation.commaSeparated c) (Translation.commaSeparated c') :=
  h.bind fun _ => (repeatAfter (.accept _) fun _ => h).map

theorem parenthesized (h : Alike w c c') :
    Alike w (Translation.parenthesized c) (Translation.parenthesized c') :=
  read_bind (.require _) fun _ => h.bind fun a => read_bind (.require _) fun _ => pure a

theorem nested {inner? inner?' : Option (Translation α)} (h : Option.Rel (Alike w) inner? inner?')
    (opener : SourceToken) :
    Alike w (Translation.nested inner? opener) (Translation.nested inner?' opener) := by
  cases h with
  | none => exact read (.fail _)
  | some h => exact h

end Alike

end GeoFilter
