import GeoFilter.Assembly.Step
import GeoFilter.Phrase

/-!
# Translations

A `Translation` reads something off the front of some lexemes and makes its value at once, with neither
reductions nor a stack in between.  A phrase together with the work of its reductions comes to what its
translation says; what is proved about trees is proved about translations.
-/

namespace GeoFilter

/-- Why a translation comes to no value. -/
inductive Stop where
  /-- The lexemes cannot be read on. -/
  | fault (fault : SyntaxFault)
  /-- What was read makes no value. -/
  | finding (finding : Finding)
  /-- A reduction that the setting does not permit. -/
  | refused (r : Reduction)

/-- What statements are translated with.  A setting that does not permit some reductions tells the
statements that complete one of them from the others. -/
structure Setting where
  dialect : Dialect
  kit : Toolkit
  permits : Reduction → Bool := fun _ => true

/-- Reads something off the front of some lexemes and makes its value. -/
def Translation (α : Type) : Type :=
  List Lexeme → Except Stop (α × List Lexeme)

def orFinding (a? : Option α) (finding : Finding) : Except Finding α :=
  match a? with
  | some a => .ok a
  | none => .error finding

namespace Translation

def pure (a : α) : Translation α := fun input => .ok (a, input)

/-- One translation and then another, unless the first stops. -/
def bind (first : Translation α) (next : α → Translation β) : Translation β := fun input =>
  match first input with
  | .ok (a, rest) => next a rest
  | .error stop => .error stop

instance : Monad Translation where
  pure := pure
  bind := bind

theorem bind_assoc (c : Translation α) (f : α → Translation β) (g : β → Translation γ) :
    c >>= f >>= g = c >>= fun a => f a >>= g := by
  funext input
  change Translation.bind (Translation.bind c f) g input = Translation.bind c _ input
  unfold Translation.bind
  cases c input <;> rfl

theorem pure_bind (a : α) (f : α → Translation β) : (Pure.pure a : Translation α) >>= f = f a := rfl

theorem bind_apply (c : Translation α) (f : α → Translation β) (input : List Lexeme) :
    (c >>= f) input = c input >>= fun x => f x.1 x.2 := by
  change Translation.bind c f input = _
  unfold Translation.bind
  cases c input <;> rfl

theorem bind_of_ok {c : Translation α} {f : α → Translation β} {input rest : List Lexeme} {a : α}
    (h : c input = .ok (a, rest)) : (c >>= f) input = f a rest := by
  change Translation.bind c f input = _
  rw [Translation.bind, h]

theorem bind_of_error {c : Translation α} {f : α → Translation β} {input : List Lexeme} {stop : Stop}
    (h : c input = .error stop) : (c >>= f) input = .error stop := by
  change Translation.bind c f input = _
  rw [Translation.bind, h]

theorem bind_eq_error {c : Translation α} {f : α → Translation β} {input : List Lexeme} {stop : Stop}
    (h : (c >>= f) input = .error stop) :
    c input = .error stop ∨ ∃ a mid, c input = .ok (a, mid) ∧ f a mid = .error stop := by
  change Translation.bind c f input = _ at h
  unfold Translation.bind at h
  split at h
  case h_1 a mid hc => exact .inr ⟨a, mid, hc, h⟩
  case h_2 hc =>
    cases h
    exact .inl hc

theorem bind_eq_ok {c : Translation α} {f : α → Translation β} {input rest : List Lexeme} {b : β}
    (h : (c >>= f) input = .ok (b, rest)) :
    ∃ a mid, c input = .ok (a, mid) ∧ f a mid = .ok (b, rest) := by
  change Translation.bind c f input = _ at h
  unfold Translation.bind at h
  split at h
  case h_1 a mid hc => exact ⟨a, mid, hc, h⟩
  case h_2 => cases h

def read (phrase : Phrase α) : Translation α := fun input =>
  (phrase input).outcome.mapError Stop.fault

theorem read_of_ok {p : Phrase α} {input : List Lexeme} {x : α × List Lexeme}
    (h : (p input).outcome = .ok x) : read p input = .ok x := by
  rw [read, h]
  rfl

theorem read_eq_ok {p : Phrase α} {input : List Lexeme} {x : α × List Lexeme}
    (h : read p input = .ok x) : (p input).outcome = .ok x := by
  unfold read at h
  cases houtcome : (p input).outcome with
  | ok y =>
    rw [houtcome] at h
    cases h
    rfl
  | error fault =>
    rw [houtcome] at h
    cases h

/-- Completes a reduction, if it is permitted, with the value that its work makes. -/
def complete (u : Setting) (production : Production) (tokens : List SourceToken)
    (value : Except Finding α) : Translation α := fun input =>
  if u.permits ⟨production, tokens⟩ then
    match value with
    | .ok a => .ok (a, input)
    | .error finding => .error (.finding finding)
  else .error (.refused ⟨production, tokens⟩)

theorem complete_of_permits {u : Setting} {production : Production} {tokens : List SourceToken}
    (h : u.permits ⟨production, tokens⟩ = true) (a : α) (input : List Lexeme) :
    complete u production tokens (.ok a) input = .ok (a, input) := by
  rw [complete, if_pos h]

theorem complete_eq_ok {u : Setting} {production : Production} {tokens : List SourceToken}
    {value : Except Finding α} {a : α} {input rest : List Lexeme}
    (h : complete u production tokens value input = .ok (a, rest)) :
    u.permits ⟨production, tokens⟩ = true ∧ value = .ok a ∧ rest = input := by
  unfold complete at h
  split at h
  case isTrue hpermits =>
    cases value with
    | ok a' =>
      cases h
      exact ⟨hpermits, rfl, rfl⟩
    | error finding => cases h
  case isFalse => cases h

/-- The values after every separator, as long as there is one and at most `fuel` of them. -/
def repeatUpTo (separator : Phrase (Option α)) (item : α → Translation β) :
    Nat → Translation (List β)
  | 0 => pure []
  | fuel + 1 => do
    match ← read separator with
    | some a =>
      let b ← item a
      let bs ← repeatUpTo separator item fuel
      return b :: bs
    | none => return []

/-- The values after every separator, as long as there is one. -/
def repeatAfter (separator : Phrase (Option α)) (item : α → Translation β) : Translation (List β) :=
  fun input => repeatUpTo separator item input.length input

theorem repeatAfter_of_none {separator : Phrase (Option α)} {input : List Lexeme}
    (h : (separator input).outcome = .ok (none, input)) (item : α → Translation β) :
    repeatAfter separator item input = .ok ([], input) := by
  unfold repeatAfter
  cases input.length with
  | zero => rfl
  | succ fuel => exact bind_of_ok (read_of_ok h)

/-- One value and those after the commas that follow. -/
def commaSeparated (item : Translation β) : Translation (β × List β) := do
  let first ← item
  let others ← repeatAfter (Phrase.accept .comma) fun _ => item
  return (first, others)

def parenthesized (body : Translation β) : Translation β := do
  read (Phrase.require .leftParen)
  let b ← body
  read (Phrase.require .rightParen)
  return b

/-- A value one level deeper, which the given token opens, if there is a level left. -/
def nested (inner? : Option (Translation β)) (opener : SourceToken) : Translation β :=
  match inner? with
  | some inner => inner
  | none => read (Phrase.fail (.tooDeep opener))

end Translation

end GeoFilter
