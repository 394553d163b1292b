import GeoFilter.Proofs.Parallel.Spanning

/-!
# Translations side by side

`Parallel w V c c'`: from lexemes that the pairing `w` puts beside each other, the translations `c` and `c'` come to
values that are related by `V` wherever they are read.  A translation beside itself shows what is true of all its values.
-/

namespace GeoFilter

open Translation (read read_phrase_bind)

/-- From lexemes side by side two translations come to values side by side, or part as the pairing allows. -/
def Parallel (w : Pairing) (V : α → β → Prop) (c : Translation α) (c' : Translation β) : Prop :=
  Spanning w (fun _ a b _ => V a b) c c'

namespace Parallel

variable {w : Pairing} {V V' : α → β → Prop} {R : γ → δ → Prop} {c : Translation α} {c' : Translation β}

theorem mono (h : Parallel w V c c') (hV : ∀ a b, V a b → V' a b) : Parallel w V' c c' :=
  fun ls ls' hls => (h ls ls' hls).mono fun a b _ _ => hV a b

theorem spanning {W : LexemePairs → α → β → LexemePairs → Prop} (h : Parallel w V c c')
    (hW : ∀ s a b t, V a b → W s a b t) : Spanning w W c c' :=
  fun ls ls' hls => (h ls ls' hls).mono fun a b _ _ => hW _ a b _

theorem pure {a : α} {b : β} (h : V a b) : Parallel w V (Pure.pure a) (Pure.pure b) :=
  Spanning.pure fun _ => h

theorem bind_spanning {R : γ → δ → LexemePairs → Prop} {f : α → Translation γ} {f' : β → Translation δ}
    (h : Parallel w V c c') (hf : ∀ a b, V a b → Spanning w (fun _ => R) (f a) (f' b)) :
    Spanning w (fun _ => R) (c >>= f) (c' >>= f') :=
  Spanning.bind_value h hf

theorem bind {f : α → Translation γ} {f' : β → Translation δ} (h : Parallel w V c c')
    (hf : ∀ a b, V a b → Parallel w R (f a) (f' b)) : Parallel w R (c >>= f) (c' >>= f') :=
  h.bind_spanning hf

theorem map {f : α → γ} {f' : β → δ} (h : Parallel w V c c') (hf : ∀ a b, V a b → R (f a) (f' b)) :
    Parallel w R (c >>= fun a => Pure.pure (f a)) (c' >>= fun b => Pure.pure (f' b)) :=
  h.bind fun a b hab => pure (hf a b hab)

theorem complete {production production' : Production} {tokens tokens' : List SourceToken}
    {value : Except Finding α} {value' : Except Finding β} (h : w.Values V value value') :
    Parallel w V (Translation.complete w.left production tokens value)
      (Translation.complete w.right production' tokens' value') :=
  (Spanning.complete h).mono fun _ _ _ _ h => h.2

theorem complete_ok {production production' : Production} {tokens tokens' : List SourceToken} {a : α} {b : β}
    (h : V a b) : Parallel w V (Translation.complete w.left production tokens (.ok a))
      (Translation.complete w.right production' tokens' (.ok b)) :=
  complete (.value h)

theorem complete_bind {production production' : Production} {tokens tokens' : List SourceToken} {a : α} {b : β}
    {f : α → Translation γ} {f' : β → Translation δ} (h : Parallel w R (f a) (f' b)) :
    Parallel w R (Translation.complete w.left production tokens (.ok a) >>= f)
      (Translation.complete w.right production' tokens' (.ok b) >>= f') := by
  refine (complete_ok (V := fun x y => x = a ∧ y = b) ⟨rfl, rfl⟩).bind ?_
  rintro _ _ ⟨rfl, rfl⟩
  exact h

theorem ite {b b' : Prop} [Decidable b] [Decidable b'] {d : Translation α} {d' : Translation β} (hb : b' ↔ b)
    (hthen : Parallel w V c c') (helse : Parallel w V d d') :
    Parallel w V (if b then c else d) (if b' then c' else d') := by
  by_cases h : b
  · rw [if_pos h, if_pos (hb.mpr h)]
    exact hthen
  · rw [if_neg h, if_neg (mt hb.mp h)]
    exact helse

/-! ### The next tokens -/

theorem fail {f f' : SyntaxFault} (h : f.Beside w.source f') :
    Parallel w V (read (Phrase.fail f)) (read (Phrase.fail f')) :=
  Spanning.fail h

theorem unexpected (expected : String) :
    Parallel w V (read (Phrase.unexpected expected)) (read (Phrase.unexpected expected)) :=
  Spanning.unexpected expected

theorem next (expected : String) :
    Parallel w (w.Takes fun _ => true) (read (Phrase.next expected)) (read (Phrase.next expected)) := by
  rintro (_ | ⟨l, ls⟩) ls' hls
  · rw [w.input_nil hls]
    exact .stop (w.halts_fault (.endReached expected))
  · obtain ⟨l', rest', rfl, _, _, hrest⟩ := w.input_cons hls
    exact .value ⟨l, ls, l', rest', hls, rfl, rfl, rfl⟩ hrest

theorem here (expected : String) :
    Parallel w w.source (read (Phrase.here expected)) (read (Phrase.here expected)) :=
  (Spanning.here expected).mono fun _ _ _ _ h => h.2

theorem peek : Parallel w (Option.Rel Token.Alike) (read Phrase.peek) (read Phrase.peek) := by
  rintro (_ | ⟨l, ls⟩) ls' hls
  · have hnil := w.input_nil hls
    subst hnil
    exact .value .none hls
  · obtain ⟨l', rest', rfl, halike, _, _⟩ := w.input_cons hls
    exact .value (.some halike) hls

theorem peekSecond : Parallel w (Option.Rel Token.Alike) (read Phrase.peekSecond) (read Phrase.peekSecond) := by
  rintro (_ | ⟨l, _ | ⟨m, ls⟩⟩) ls' hls
  · have hnil := w.input_nil hls
    subst hnil
    exact .value .none hls
  · obtain ⟨l', rest', rfl, _, _, hrest⟩ := w.input_cons hls
    have hnil := w.input_nil hrest
    subst hnil
    exact .value .none hls
  · obtain ⟨l', rest', rfl, _, _, hrest⟩ := w.input_cons hls
    obtain ⟨m', rest'', rfl, halike, _, _⟩ := w.input_cons hrest
    exact .value (.some halike) hls

theorem acceptIf {sort : Token → Bool} (hsort : Token.Alike.Respected sort) :
    Parallel w (Option.Rel (w.Takes sort)) (read (Phrase.acceptIf sort)) (read (Phrase.acceptIf sort)) := by
  refine (Spanning.acceptIf hsort).mono fun s token? token?' t h => ?_
  cases h with
  | none => exact .none
  | some _ _ htakes => exact .some htakes

theorem accept (sign : Sign) :
    Parallel w (Option.Rel (w.Takes (· == .sign sign))) (read (Phrase.accept sign)) (read (Phrase.accept sign)) :=
  acceptIf (.sign sign)

theorem acceptWord (word : String) : Parallel w (Option.Rel (w.Takes (Token.isWord word)))
    (read (Phrase.acceptWord word)) (read (Phrase.acceptWord word)) :=
  acceptIf (.isWord word)

theorem expectIf {sort : Token → Bool} (hsort : Token.Alike.Respected sort) (expected : String) :
    Parallel w (w.Takes sort) (read (Phrase.expectIf sort expected)) (read (Phrase.expectIf sort expected)) := by
  refine (Spanning.expectIf hsort expected).mono fun s token token' t h => ?_
  cases h with
  | some _ _ htakes => exact htakes

theorem expectWord (word : String) : Parallel w (w.Takes (Token.isWord word)) (read (Phrase.expectWord word))
    (read (Phrase.expectWord word)) :=
  expectIf (.isWord word) word

theorem require (sign : Sign) :
    Parallel w (fun _ _ => True) (read (Phrase.require sign)) (read (Phrase.require sign)) :=
  (Spanning.require sign).mono fun _ _ _ _ _ => trivial

theorem signed : Parallel w w.Signed (read Grammar.signed) (read Grammar.signed) := by
  rw [Grammar.signed, read_phrase_bind]
  refine (accept .minus).bind fun minus? minus?' hminus => ?_
  rw [read_phrase_bind, read_phrase_bind]
  exact (expectIf .isNumber _).map fun number number' hnumber => ⟨hminus, hnumber⟩

theorem parenFollows : Parallel w (fun called called' => called' = called) (read Grammar.parenFollows)
    (read Grammar.parenFollows) := by
  rw [Grammar.parenFollows, read_phrase_bind]
  refine peekSecond.map fun token? token?' htoken => ?_
  cases htoken with
  | none => rfl
  | some h => exact Token.Alike.Respected.sign .leftParen h

/-! ### Repetitions -/

section Repetition

variable {S : α → β → Prop} {separator : Phrase (Option α)} {separator' : Phrase (Option β)}
  {item : α → Translation γ} {item' : β → Translation δ}

theorem repeatUpTo (hseparator : Parallel w (Option.Rel S) (read separator) (read separator'))
    (hitem : ∀ a b, S a b → Parallel w R (item a) (item' b)) (fuel : Nat) :
    Parallel w (List.Forall₂ R) (Translation.repeatUpTo separator item fuel)
      (Translation.repeatUpTo separator' item' fuel) := by
  induction fuel with
  | zero => exact pure .nil
  | succ fuel ih =>
    refine hseparator.bind fun a? b? hab => ?_
    cases hab with
    | none => exact pure .nil
    | some h => exact (hitem _ _ h).bind fun x y hxy => ih.map fun xs ys hs => .cons hxy hs

theorem repeatAfter (hseparator : Parallel w (Option.Rel S) (read separator) (read separator'))
    (hitem : ∀ a b, S a b → Parallel w R (item a) (item' b)) :
    Parallel w (List.Forall₂ R) (Translation.repeatAfter separator item)
      (Translation.repeatAfter separator' item') := by
  intro ls ls' hls
  unfold Translation.repeatAfter
  rw [w.input_length hls]
  exact repeatUpTo hseparator hitem ls.length ls ls' hls

theorem commaSeparated {item : Translation γ} {item' : Translation δ} (hitem : Parallel w R item item') :
    Parallel w (fun xs ys => List.Forall₂ R (xs.1 :: xs.2) (ys.1 :: ys.2)) (Translation.commaSeparated item)
      (Translation.commaSeparated item') :=
  hitem.bind fun _ _ hxy => (repeatAfter (accept .comma) fun _ _ _ => hitem).map fun _ _ hs => .cons hxy hs

theorem commaSeparated_same {P : α → Prop} {item item' : Translation α}
    (hitem : Parallel w (Pairing.Same P) item item') :
    Parallel w (Pairing.Same fun xs : α × List α => ∀ x ∈ xs.1 :: xs.2, P x) (Translation.commaSeparated item)
      (Translation.commaSeparated item') := by
  refine (commaSeparated hitem).mono ?_
  rintro ⟨x, xs⟩ ⟨y, ys⟩ h
  obtain ⟨heq, hP⟩ := Pairing.Same.of_forall₂ h
  obtain ⟨rfl, rfl⟩ := List.cons.inj heq
  exact ⟨rfl, hP⟩

theorem parenthesized (hc : Parallel w V c c') :
    Parallel w V (Translation.parenthesized c) (Translation.parenthesized c') :=
  (require .leftParen).bind fun _ _ _ => hc.bind fun _ _ hab => (require .rightParen).map fun _ _ _ => hab

end Repetition

/-! ### Levels -/

/-- Two translations that are one level deeper, if there is a level left. -/
abbrev Inner (w : Pairing) (V : Nat → α → β → Prop) :
    Nat → Option (Translation α) → Option (Translation β) → Prop :=
  Spanning.Inner w fun levels _ a b _ => V levels a b

theorem nested {V : Nat → α → β → Prop} {levels : Nat} {inner? : Option (Translation α)}
    {inner?' : Option (Translation β)} (h : Inner w V levels inner? inner?') {opener opener' : SourceToken}
    (hopener : w.source opener opener') :
    Parallel w (Pairing.Below V levels) (Translation.nested inner? opener) (Translation.nested inner?' opener') :=
  Spanning.nested h hopener

end Parallel

end GeoFilter
