import GeoFilter.Proofs.Parallel.Pairing

/-!
# Where values are read side by side

From lexemes that stand beside each other, two translations come to values that are related where they are read, and go
on with lexemes that stand beside each other again, or they part in a way that the pairing allows.  `Spanning w V c c'`
says so for a relation `V` that is told the lexemes from the first one of a value on, and those behind it, each with the
one beside it.  There is one rule for each way of reading and of putting translations together.
-/

namespace GeoFilter

open Translation (read read_phrase_bind)

/-- Lexemes of two statements, each with the one beside it. -/
abbrev LexemePairs := List (Lexeme × Lexeme)

/-- From lexemes side by side two translations come to values that are related where they are read. -/
def Spanning (w : Pairing) (V : LexemePairs → α → β → LexemePairs → Prop) (c : Translation α) (c' : Translation β) :
    Prop :=
  ∀ ls ls', w.input ls ls' →
    w.Outcome (fun a b rest rest' => V (ls.zip ls') a b (rest.zip rest')) (c ls) (c' ls')

/-- Lexemes at which the two statements of a pairing may be read side by side. -/
def Pairing.Stands (w : Pairing) (s : LexemePairs) : Prop := ∃ ls ls', w.input ls ls' ∧ s = ls.zip ls'

variable {w : Pairing} {V W : LexemePairs → α → β → LexemePairs → Prop} {R : LexemePairs → γ → δ → LexemePairs → Prop}
  {c : Translation α} {c' : Translation β}

namespace Spanning

theorem mono (h : Spanning w V c c') (hW : ∀ s a b t, V s a b t → W s a b t) : Spanning w W c c' :=
  fun ls ls' hls => (h ls ls' hls).mono fun a b _ _ => hW _ a b _

theorem pure {a : α} {b : β} (h : ∀ s, V s a b s) : Spanning w V (Pure.pure a) (Pure.pure b) :=
  fun _ _ hls => .value (h _) hls

theorem bind {f : α → Translation γ} {f' : β → Translation δ} (h : Spanning w V c c')
    (hf : ∀ s a b mid, V s a b mid → Spanning w (fun s' x y t => s' = mid → R s x y t) (f a) (f' b)) :
    Spanning w R (c >>= f) (c' >>= f') := by
  intro ls ls' hls
  rw [Translation.bind_apply, Translation.bind_apply]
  refine (h ls ls' hls).bind fun a b rest rest' hab hrest => ?_
  exact (hf _ a b _ hab rest rest' hrest).mono fun x y _ _ hxy => hxy rfl

/-- Values that say nothing of where they start may follow others. -/
theorem bind_value {V : α → β → Prop} {R : γ → δ → LexemePairs → Prop} {f : α → Translation γ} {f' : β → Translation δ}
    (h : Spanning w (fun _ a b _ => V a b) c c') (hf : ∀ a b, V a b → Spanning w (fun _ => R) (f a) (f' b)) :
    Spanning w (fun _ => R) (c >>= f) (c' >>= f') :=
  h.bind fun _ a b _ hab => (hf a b hab).mono fun _ _ _ _ hR _ => hR

/-- A reduction takes no lexemes. -/
theorem complete {U : ε → ζ → Prop} {production production' : Production} {tokens tokens' : List SourceToken}
    {value : Except Finding ε} {value' : Except Finding ζ} (h : w.Values U value value') :
    Spanning w (fun s x y t => s = t ∧ U x y) (Translation.complete w.left production tokens value)
      (Translation.complete w.right production' tokens' value') := by
  intro ls ls' hls
  unfold Translation.complete
  rw [if_pos (w.permits_left _), if_pos (w.permits_right _)]
  cases h with
  | value h => exact .value ⟨rfl, h⟩ hls
  | stray h => exact .stray h
  | stop h =>
    refine .stop ?_
    cases value' with
    | ok b => exact h
    | error f => exact h

theorem complete_ok {production production' : Production} {tokens tokens' : List SourceToken} {a : α} {b : β}
    (h : ∀ s, V s a b s) : Spanning w V (Translation.complete w.left production tokens (.ok a))
      (Translation.complete w.right production' tokens' (.ok b)) := by
  refine (complete (U := fun x y => x = a ∧ y = b) (.value ⟨rfl, rfl⟩)).mono ?_
  rintro s _ _ _ ⟨rfl, rfl, rfl⟩
  exact h s

theorem complete_bind {U : ε → ζ → Prop} {production production' : Production} {tokens tokens' : List SourceToken}
    {value : Except Finding ε} {value' : Except Finding ζ} {f : ε → Translation α} {f' : ζ → Translation β}
    (hvalue : w.Values U value value') (hf : ∀ x y, U x y → Spanning w V (f x) (f' y)) :
    Spanning w V (Translation.complete w.left production tokens value >>= f)
      (Translation.complete w.right production' tokens' value' >>= f') := by
  refine (complete hvalue).bind fun s x y mid hxy => (hf x y hxy.2).mono ?_
  rintro _ a b t hV rfl
  rwa [hxy.1]

/-- The values that two translations make of the lexemes on their sides. -/
structure Reads (c : Translation α) (c' : Translation β) (s : LexemePairs) (a : α) (b : β) (t : LexemePairs) :
    Prop where
  left : c (s.map Prod.fst) = .ok (a, t.map Prod.fst)
  right : c' (s.map Prod.snd) = .ok (b, t.map Prod.snd)

theorem reads (h : Spanning w V c c') : Spanning w (fun s a b t => V s a b t ∧ Reads c c' s a b t) c c' := by
  have hleft : ∀ {ls ls'}, w.input ls ls' → (ls.zip ls').map Prod.fst = ls := fun h =>
    List.map_fst_zip (Nat.le_of_eq (Pairing.input_length h).symm)
  have hright : ∀ {ls ls'}, w.input ls ls' → (ls.zip ls').map Prod.snd = ls' := fun h =>
    List.map_snd_zip (Nat.le_of_eq (Pairing.input_length h))
  intro ls ls' hls
  have hc := h ls ls' hls
  generalize hsaid : c ls = said, hsaid' : c' ls' = said' at hc
  cases hc with
  | value hV hrest =>
    refine .value ⟨hV, ⟨?_, ?_⟩⟩ hrest
    · rw [hleft hls, hleft hrest, hsaid]
    · rw [hright hls, hright hrest, hsaid']
  | stray h => exact .stray h
  | stop h => exact .stop h

/-! ### The next lexemes -/

theorem fail {f f' : SyntaxFault} (h : f.Beside w.source f') :
    Spanning w V (read (Phrase.fail f)) (read (Phrase.fail f')) :=
  fun _ _ _ => .stop (w.halts_fault h)

theorem unexpected (expected : String) :
    Spanning w V (read (Phrase.unexpected expected)) (read (Phrase.unexpected expected)) := by
  rintro (_ | ⟨l, ls⟩) ls' hls
  · rw [w.input_nil hls]
    exact .stop (w.halts_fault (.endReached expected))
  · obtain ⟨l', rest', rfl, _, hsource, _⟩ := w.input_cons hls
    exact .stop (w.halts_fault (.unexpected expected hsource))

/-- Tokens of some sort that are taken where they are the next ones. -/
inductive Accepted (w : Pairing) (sort : Token → Bool) :
    LexemePairs → Option SourceToken → Option SourceToken → LexemePairs → Prop
  | none (s : LexemePairs) : Accepted w sort s none none s
  | some {l l' : Lexeme} {t : LexemePairs} (hstands : w.Stands ((l, l') :: t)) (hl : sort l.token = true)
      (htakes : w.Takes sort l.source l'.source) : Accepted w sort ((l, l') :: t) (some l.source) (some l'.source) t

theorem acceptIf {sort : Token → Bool} (hsort : Token.Alike.Respected sort) :
    Spanning w (Accepted w sort) (read (Phrase.acceptIf sort)) (read (Phrase.acceptIf sort)) := by
  rintro (_ | ⟨l, ls⟩) ls' hls
  · have hnil := w.input_nil hls
    subst hnil
    exact .value (.none _) hls
  · obtain ⟨l', rest', rfl, halike, _, hrest⟩ := w.input_cons hls
    have hsame := hsort halike
    by_cases hl : sort l.token = true
    · rw [read_acceptIf_of_pos hl, read_acceptIf_of_pos (hsame.trans hl)]
      exact .value (.some ⟨_, _, hls, rfl⟩ hl ⟨l, ls, l', rest', hls, hl, rfl, rfl⟩) hrest
    · rw [read_acceptIf_of_neg hl, read_acceptIf_of_neg (by rwa [hsame])]
      exact .value (.none _) hls

theorem expectIf {sort : Token → Bool} (hsort : Token.Alike.Respected sort) (expected : String) :
    Spanning w (fun s token token' t => Accepted w sort s (some token) (some token') t)
      (read (Phrase.expectIf sort expected)) (read (Phrase.expectIf sort expected)) := by
  rw [Phrase.expectIf, read_phrase_bind]
  refine (acceptIf hsort).bind fun s token? token?' mid haccepted => ?_
  cases haccepted with
  | none => exact unexpected expected
  | some hstands hl htakes =>
    refine .pure fun s' hs => ?_
    rw [hs]
    exact .some hstands hl htakes

theorem require (sign : Sign) :
    Spanning w (fun s _ _ t => ∃ l l', s = (l, l') :: t ∧ l.token = .sign sign) (read (Phrase.require sign))
      (read (Phrase.require sign)) := by
  rw [Phrase.require, read_phrase_bind]
  refine (expectIf (.sign sign) _).bind fun s token token' mid haccepted => .pure fun s' hs => ?_
  cases haccepted with
  | some hstands hl => exact ⟨_, _, by rw [hs], beq_iff_eq.mp hl⟩

theorem here (expected : String) : Spanning w (fun s start start' t => s = t ∧ w.source start start')
    (read (Phrase.here expected)) (read (Phrase.here expected)) := by
  rintro (_ | ⟨l, ls⟩) ls' hls
  · rw [w.input_nil hls]
    exact .stop (w.halts_fault (.endReached expected))
  · obtain ⟨l', rest', rfl, _, hsource, _⟩ := w.input_cons hls
    exact .value ⟨rfl, hsource⟩ hls

/-! ### Values one after the other -/

section Repetition

variable {sort : Token → Bool} {item : SourceToken → Translation α} {item' : SourceToken → Translation β}
  {combine : γ → α → γ} {combine' : δ → β → δ} {B : γ → δ → LexemePairs → Prop}

/-- Values that are combined from the left, each behind a lexeme of some sort: `B` holds of what is combined so far and
where the next lexeme stands. -/
theorem foldl_repeatUpTo (hsort : Token.Alike.Respected sort)
    (hitem : ∀ token token', w.source token token' → Spanning w V (item token) (item' token'))
    (hstep : ∀ x y l l' mid a b t, B x y ((l, l') :: mid) → sort l.token = true → V mid a b t →
      B (combine x a) (combine' y b) t) (fuel : Nat) :
    Spanning w (fun s as bs t => ∀ x y, B x y s → B (as.foldl combine x) (bs.foldl combine' y) t)
      (Translation.repeatUpTo (Phrase.acceptIf sort) item fuel)
      (Translation.repeatUpTo (Phrase.acceptIf sort) item' fuel) := by
  induction fuel with
  | zero => exact .pure fun s x y h => h
  | succ fuel ih =>
    refine (acceptIf hsort).bind fun s token? token?' mid haccepted => ?_
    cases haccepted with
    | none =>
      refine .pure fun s' hs x y h => ?_
      rw [hs]
      exact h
    | some hstands hl htakes =>
      refine (hitem _ _ htakes.source).bind fun s' a b mid' hab => ih.bind fun s'' as bs t' hmore => .pure ?_
      rintro t'' rfl rfl rfl x y h
      exact hmore _ _ (hstep x y _ _ _ a b _ h hl hab)

theorem foldl_repeatAfter (hsort : Token.Alike.Respected sort)
    (hitem : ∀ token token', w.source token token' → Spanning w V (item token) (item' token'))
    (hstep : ∀ x y l l' mid a b t, B x y ((l, l') :: mid) → sort l.token = true → V mid a b t →
      B (combine x a) (combine' y b) t) :
    Spanning w (fun s as bs t => ∀ x y, B x y s → B (as.foldl combine x) (bs.foldl combine' y) t)
      (Translation.repeatAfter (Phrase.acceptIf sort) item) (Translation.repeatAfter (Phrase.acceptIf sort) item') := by
  intro ls ls' hls
  unfold Translation.repeatAfter
  rw [w.input_length hls]
  exact foldl_repeatUpTo hsort hitem hstep ls.length ls ls' hls

end Repetition

/-! ### Levels -/

/-- Two translations that are one level deeper, if there is a level left. -/
inductive Inner (w : Pairing) (V : Nat → LexemePairs → α → β → LexemePairs → Prop) :
    Nat → Option (Translation α) → Option (Translation β) → Prop
  | none : Inner w V 0 none none
  | some {levels : Nat} {c : Translation α} {c' : Translation β} (h : Spanning w (V levels) c c') :
      Inner w V (levels + 1) (some c) (some c')

theorem nested {V : Nat → LexemePairs → α → β → LexemePairs → Prop} {levels : Nat} {inner? : Option (Translation α)}
    {inner?' : Option (Translation β)} (h : Inner w V levels inner? inner?') {opener opener' : SourceToken}
    (hopener : w.source opener opener') :
    Spanning w (fun s a b t => Pairing.Below (fun n a b => V n s a b t) levels a b) (Translation.nested inner? opener)
      (Translation.nested inner?' opener') := by
  cases h with
  | none => exact fail (.tooDeep hopener)
  | some h => exact h

end Spanning

end GeoFilter
