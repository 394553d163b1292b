import Mathlib.Data.List.Forall2
import GeoFilter.Grammar.Predicate
import GeoFilter.Proofs.Comparison
import GeoFilter.Proofs.Framing
import GeoFilter.Proofs.Keyword
import GeoFilter.Proofs.Numeral

/-!
# Pairings of statements

A pairing tells which lexemes of two statements stand beside each other, and how their translations may part: where the
one on the right may stop although the one on the left makes a value, and what it may do where the one on the left
stops.  The two may differ in their toolkits and in how the lexemes are written, never in how the lexemes are read.
-/

namespace GeoFilter

/-! ### Pairings -/

/-- Tokens that the grammar does not tell apart: a token and itself, or a word in two cases. -/
inductive Token.Alike : Token → Token → Prop
  | refl (token : Token) : Alike token token
  | word {text text' : String} (same : Text.sameIgnoringAsciiCase text' text = true) :
      Alike (.word text none) (.word text' none)

/-- Faults at tokens that stand beside each other. -/
inductive SyntaxFault.Beside (source : SourceToken → SourceToken → Prop) : SyntaxFault → SyntaxFault → Prop
  | unexpected (expected : String) {token token' : SourceToken} (h : source token token') :
      Beside source (.unexpected expected token) (.unexpected expected token')
  | endReached (expected : String) : Beside source (.endReached expected) (.endReached expected)
  | tooDeep {opener opener' : SourceToken} (h : source opener opener') :
      Beside source (.tooDeep opener) (.tooDeep opener')

/-- Findings at tokens that stand beside each other, for which the toolkit does not matter. -/
inductive Finding.Beside (source : SourceToken → SourceToken → Prop) : Finding → Finding → Prop
  | geometry (e : GeometryError) {token token' : SourceToken} (h : source token token') :
      Beside source ⟨.degenerateGeometry e, token, none⟩ ⟨.degenerateGeometry e, token', none⟩
  | srid {token token' : SourceToken} (h : source token token') :
      Beside source (.invalidSrid token) (.invalidSrid token')
  | pattern {token token' : SourceToken} (h : source token token') :
      Beside source ⟨.invalidDe9im token.text, token, none⟩ ⟨.invalidDe9im token'.text, token', none⟩
  | units {word word' : SourceToken} {words words' : List SourceToken}
      (h : List.Forall₂ source (word :: words) (word' :: words')) :
      Beside source ⟨.invalidUnits (" ".intercalate ((word :: words).map SourceToken.text)), word, none⟩
        ⟨.invalidUnits (" ".intercalate ((word' :: words').map SourceToken.text)), word', none⟩

/-- Two settings of one dialect, and the lexemes that they translate side by side.  It tells where the translation on
the right may stop although the one on the left makes a value (`strays`), and what the one on the right may do where
the one on the left stops (`halts`): stop as well, or make a value and stop later, or not at all. -/
structure Pairing where
  left : Setting
  right : Setting
  input : List Lexeme → List Lexeme → Prop
  source : SourceToken → SourceToken → Prop
  strays : Stop → Prop
  halts : Stop → Option Stop → Prop
  dialect_eq : right.dialect = left.dialect
  permits_left : ∀ r, left.permits r = true
  permits_right : ∀ r, right.permits r = true
  input_nil : ∀ {ls'}, input [] ls' → ls' = []
  input_cons : ∀ {l ls ls'}, input (l :: ls) ls' →
    ∃ l' rest', ls' = l' :: rest' ∧ l.token.Alike l'.token ∧ source l.source l'.source ∧ input ls rest'
  numeral : ∀ {l ls ls'}, input (l :: ls) ls' → Grammar.isNumber l.token = true → Numeral l.token.text.toList
  source_signed : ∀ {t t' u u'}, source t t' → source u u' →
    source (Grammar.signedToken t u) (Grammar.signedToken t' u')
  halts_of_none : ∀ stop stop?, halts stop none → halts stop stop?
  halts_of_strays : ∀ stop stop', strays stop' → halts stop (some stop')
  halts_fault : ∀ {f f'}, SyntaxFault.Beside source f f' → halts (.fault f) (some (.fault f'))
  halts_finding : ∀ {f f'}, Finding.Beside source f f' → halts (.finding f) (some (.finding f'))

namespace Pairing

variable (w : Pairing)

/-- Two tokens of some sort that are taken side by side. -/
def Takes (sort : Token → Bool) (token token' : SourceToken) : Prop :=
  ∃ l ls l' ls', w.input (l :: ls) (l' :: ls') ∧ sort l.token = true ∧ token = l.source ∧ token' = l'.source

/-- Two texts that are made in the same way of tokens taken side by side: the texts of one, or of some with colons
between them. -/
inductive Texts : String → String → Prop
  | taken {sort : Token → Bool} {token token' : SourceToken} (h : w.Takes sort token token') :
      Texts token.text token'.text
  | joined {text text' : String} {sort : Token → Bool} {token token' : SourceToken} (htext : Texts text text')
      (h : w.Takes sort token token') : Texts (text ++ ":" ++ token.text) (text' ++ ":" ++ token'.text)

/-- Two numbers with their signs that are read side by side. -/
structure Signed (n n' : Option SourceToken × SourceToken) : Prop where
  minus : Option.Rel (w.Takes (· == .sign .minus)) n.1 n'.1
  number : w.Takes Grammar.isNumber n.2 n'.2

/-- What a translation comes to and leaves, beside what another does. -/
inductive Outcome (V : α → β → List Lexeme → List Lexeme → Prop) :
    Except Stop (α × List Lexeme) → Except Stop (β × List Lexeme) → Prop
  | value {a : α} {b : β} {rest rest' : List Lexeme} (h : V a b rest rest') (hrest : w.input rest rest') :
      Outcome V (.ok (a, rest)) (.ok (b, rest'))
  | stray {x : α × List Lexeme} {stop : Stop} (h : w.strays stop) : Outcome V (.ok x) (.error stop)
  | stop {stop : Stop} {said : Except Stop (β × List Lexeme)} (h : w.halts stop (stopOf said)) :
      Outcome V (.error stop) said

/-- What the work of a reduction comes to, beside what the work of another does. -/
inductive Values (V : α → β → Prop) : Except Finding α → Except Finding β → Prop
  | value {a : α} {b : β} (h : V a b) : Values V (.ok a) (.ok b)
  | stray {a : α} {f : Finding} (h : w.strays (.finding f)) : Values V (.ok a) (.error f)
  | stop {f : Finding} {value' : Except Finding β} (h : w.halts (.finding f) (stopOf (value'.mapError Stop.finding))) :
      Values V (.error f) value'

def Same (P : α → Prop) (a a' : α) : Prop := a' = a ∧ P a

theorem Same.of_forall₂ {P : α → Prop} {as as' : List α} (h : List.Forall₂ (Same P) as as') :
    as' = as ∧ ∀ a ∈ as, P a := by
  induction h with
  | nil => exact ⟨rfl, List.forall_mem_nil _⟩
  | cons h _ ih => exact ⟨by rw [h.1, ih.1], List.forall_mem_cons.mpr ⟨h.2, ih.2⟩⟩

/-- A relation one level deeper; with no level left nothing is related. -/
def Below (V : Nat → α → β → Prop) : Nat → α → β → Prop
  | 0 => fun _ _ => False
  | levels + 1 => V levels

theorem Below.const {V : α → β → Prop} {levels : Nat} {a : α} {b : β} (h : Below (fun _ => V) levels a b) : V a b := by
  cases levels with
  | zero => exact h.elim
  | succ levels => exact h

variable {w}

section Outcome

variable {V V' : α → β → List Lexeme → List Lexeme → Prop} {said : Except Stop (α × List Lexeme)}
  {said' : Except Stop (β × List Lexeme)}

theorem Outcome.mono (h : w.Outcome V said said') (hV : ∀ a b rest rest', V a b rest rest' → V' a b rest rest') :
    w.Outcome V' said said' := by
  cases h with
  | value h hrest => exact .value (hV _ _ _ _ h) hrest
  | stray h => exact .stray h
  | stop h => exact .stop h

theorem Outcome.of_stray {stop : Stop} (h : w.strays stop) (said : Except Stop (α × List Lexeme)) :
    w.Outcome V said (.error stop) := by
  cases said with
  | ok x => exact .stray h
  | error stop' => exact .stop (w.halts_of_strays _ _ h)

theorem Outcome.bind {W : γ → δ → List Lexeme → List Lexeme → Prop}
    {f : α × List Lexeme → Except Stop (γ × List Lexeme)} {f' : β × List Lexeme → Except Stop (δ × List Lexeme)} (h : w.Outcome V said said')
    (hf : ∀ a b rest rest', V a b rest rest' → w.input rest rest' → w.Outcome W (f (a, rest)) (f' (b, rest'))) :
    w.Outcome W (said >>= f) (said' >>= f') := by
  cases h with
  | value h hrest => exact hf _ _ _ _ h hrest
  | @stray x stop h => exact .of_stray h _
  | stop h =>
    refine .stop ?_
    cases said' with
    | ok y => exact w.halts_of_none _ _ h
    | error stop' => exact h

end Outcome

variable {V : α → β → Prop}

theorem Values.bind {W : γ → δ → Prop} {value : Except Finding α} {value' : Except Finding β}
    {f : α → Except Finding γ} {f' : β → Except Finding δ} (h : w.Values V value value')
    (hf : ∀ a b, V a b → w.Values W (f a) (f' b)) : w.Values W (value >>= f) (value' >>= f') := by
  cases h with
  | value h => exact hf _ _ h
  | @stray a finding h =>
    change w.Values W (f a) (.error finding)
    cases f a with
    | ok c => exact .stray h
    | error g => exact .stop (w.halts_of_strays _ _ h)
  | stop h =>
    refine .stop ?_
    cases value' with
    | ok b => exact w.halts_of_none _ _ h
    | error g => exact h

theorem input_length {ls ls' : List Lexeme} (h : w.input ls ls') : ls'.length = ls.length := by
  induction ls generalizing ls' with
  | nil => rw [w.input_nil h]
  | cons l ls ih =>
    obtain ⟨l', rest', rfl, _, _, hrest⟩ := w.input_cons h
    rw [List.length_cons, List.length_cons, ih hrest]

/-! ### Tokens side by side -/

end Pairing

namespace Token.Alike

variable {t t' : Token}

/-- Whether a sort of tokens is the same for tokens that the grammar does not tell apart. -/
def Respected (sort : Token → Bool) : Prop := ∀ ⦃t t'⦄, Token.Alike t t' → sort t' = sort t

namespace Respected

theorem sign (s : Sign) : Respected (· == .sign s) := by
  rintro _ _ (_ | _) <;> rfl

theorem isWord (word : String) : Respected (Token.isWord word) := by
  rintro _ _ (_ | same)
  · rfl
  · rw [Token.isWord, Token.isWord, Text.sameIgnoringAsciiCase, Text.sameIgnoringAsciiCase, beq_iff_eq.mp same]

theorem isNumber : Respected Grammar.isNumber := by rintro _ _ (_ | _) <;> rfl

theorem isAnyWord : Respected Grammar.isAnyWord := by rintro _ _ (_ | _) <;> rfl

theorem isCode : Respected Grammar.isCode := by rintro _ _ (_ | _) <;> rfl

theorem isFeatureId : Respected Grammar.isFeatureId := by rintro _ _ (_ | _) <;> rfl

theorem isQuotedText : Respected Grammar.isQuotedText := by rintro _ _ (_ | _) <;> rfl

end Respected

theorem keyword (h : Token.Alike t t') : t'.keyword? = t.keyword? := by
  cases h with
  | refl => rfl
  | word same => rw [Token.keyword?, Token.keyword?, Keyword.ofText?, Keyword.ofText?, Text.upperCased_of_same same]

theorem comparisonOperator (h : Token.Alike t t') (dialect : Dialect) :
    Grammar.comparisonOperator? dialect t' = Grammar.comparisonOperator? dialect t := by
  have hkeyword := h.keyword
  cases h with
  | refl => rfl
  | word => simp only [Grammar.comparisonOperator?, hkeyword]

theorem closingSign (h : Token.Alike t t') (dialect : Dialect) :
    Grammar.closingSign? dialect t' = Grammar.closingSign? dialect t := by
  cases h with
  | refl => rfl
  | word => cases dialect <;> rfl

end Token.Alike

namespace Pairing

variable {w : Pairing} {sort sort' : Token → Bool} {token token' : SourceToken}

theorem Takes.source (h : w.Takes sort token token') : w.source token token' := by
  obtain ⟨l, ls, l', ls', hinput, _, rfl, rfl⟩ := h
  obtain ⟨_, _, heq, _, hsource, _⟩ := w.input_cons hinput
  cases heq
  exact hsource

/-- Tokens side by side have the same text, unless they are words without quotes. -/
theorem Takes.text_eq (h : w.Takes sort token token') (hsort : ∀ text, sort (.word text none) = false) :
    token'.text = token.text := by
  obtain ⟨l, ls, l', ls', hinput, hl, rfl, rfl⟩ := h
  obtain ⟨_, _, heq, halike, _, _⟩ := w.input_cons hinput
  cases heq
  generalize htoken : l.token = t, htoken' : l'.token = t' at halike hl
  cases halike with
  | refl => rw [Lexeme.source, Lexeme.source, htoken, htoken']
  | word => rw [hsort] at hl; cases hl

theorem Takes.same (h : w.Takes sort token token') (word : String) :
    Text.sameIgnoringAsciiCase token'.text word = Text.sameIgnoringAsciiCase token.text word := by
  obtain ⟨l, ls, l', ls', hinput, _, rfl, rfl⟩ := h
  obtain ⟨_, _, heq, halike, _, _⟩ := w.input_cons hinput
  cases heq
  generalize htoken : l.token = t, htoken' : l'.token = t' at halike
  rw [Lexeme.source, Lexeme.source, htoken, htoken']
  cases halike with
  | refl => rfl
  | word same => exact Token.Alike.Respected.isWord word (.word same)

variable {n n' : Option SourceToken × SourceToken}

theorem Signed.numeral (h : w.Signed n n') : Numeral n.2.text.toList := by
  obtain ⟨l, ls, l', ls', hinput, hl, hn, _⟩ := h.number
  rw [hn]
  exact w.numeral hinput hl

theorem Signed.text_eq (h : w.Signed n n') : n'.2.text = n.2.text := h.number.text_eq fun _ => rfl

theorem Signed.withSign (h : w.Signed n n') : w.source (Grammar.withSign n) (Grammar.withSign n') := by
  obtain ⟨minus?, number⟩ := n
  obtain ⟨minus?', number'⟩ := n'
  obtain ⟨hminus, hnumber⟩ := h
  cases hminus with
  | none => exact hnumber.source
  | some hminus => exact w.source_signed hminus.source hnumber.source

theorem Signed.withSign_text (h : w.Signed n n') : (Grammar.withSign n').text = (Grammar.withSign n).text := by
  have htext := h.text_eq
  obtain ⟨minus?, number⟩ := n
  obtain ⟨minus?', number'⟩ := n'
  obtain ⟨hminus, _⟩ := h
  cases hminus with
  | none => exact htext
  | some => exact congrArg ("-" ++ ·) htext

theorem Signed.first (h : w.Signed n n') : w.source (n.1.getD n.2) (n'.1.getD n'.2) := by
  obtain ⟨minus?, number⟩ := n
  obtain ⟨minus?', number'⟩ := n'
  obtain ⟨hminus, hnumber⟩ := h
  cases hminus with
  | none => exact hnumber.source
  | some hminus => exact hminus.source

end Pairing

end GeoFilter
