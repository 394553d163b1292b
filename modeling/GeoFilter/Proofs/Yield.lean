import GeoFilter.Proofs.Derivation.Factor

/-!
# What translations make of tokens

`Yields c ts follow v?`: wherever the tokens `ts` stand next and what stands behind them is as `follow` asks for,
the translation `c` takes exactly these tokens and makes the value `v?` of them, or finds coordinates that make
no geometry if there is no such value.  There is one rule for each way of putting translations together, so that
what a text comes to is read off its tokens.
-/

namespace GeoFilter

open Translation (read bind_of_ok read_of_ok)

def Anything : List Token → Prop := fun _ => True

def Without (sort : Token → Bool) : List Token → Prop := fun r => ∀ token ∈ r.head?, sort token = false

theorem Without.mono {sort sort' : Token → Bool} {r : List Token} (h : Without sort r)
    (hsort : ∀ token, sort' token = true → sort token = true) : Without sort' r := by
  intro token htoken
  cases hsort' : sort' token with
  | false => rfl
  | true => exact absurd (hsort token hsort') (by rw [h token htoken]; decide)

theorem Without.cons {sort : Token → Bool} {token : Token} (h : sort token = false) (r : List Token) :
    Without sort (token :: r) := by
  intro token' htoken'
  cases htoken'
  exact h

def Yields (c : Translation α) (ts : List Token) (follow : List Token → Prop) (v? : Option α) : Prop :=
  ∀ input r, tokensOf input = ts ++ r → follow r →
    match v? with
    | some v => ∃ rest, c input = .ok (v, rest) ∧ tokensOf rest = r
    | none => ∃ e token, c input = .error (.finding ⟨.degenerateGeometry e, token, none⟩)

namespace Yields

variable {u : Setting} {c : Translation α} {f : α → Translation β} {ts ts' : List Token}
  {F G : List Token → Prop} {v? : Option α} {w? : Option β}

theorem mono (h : Yields c ts F v?) (hFG : ∀ r, G r → F r) : Yields c ts G v? :=
  fun input r htokens hr => h input r htokens (hFG r hr)

/-! ### Parts after each other -/

theorem pure (a : α) : Yields (Pure.pure a) [] F (some a) :=
  fun input _ htokens _ => ⟨input, rfl, htokens⟩

theorem bind {g : α → Option β} (hc : Yields c ts F v?) (hf : ∀ v, v? = some v → Yields (f v) ts' G (g v))
    (hF : ∀ r, G r → F (ts' ++ r)) : Yields (c >>= f) (ts ++ ts') G (v?.bind g) := by
  intro input r htokens hr
  have hread := hc input (ts' ++ r) (by rw [htokens, List.append_assoc]) (hF r hr)
  cases v? with
  | none =>
    obtain ⟨e, token, hread⟩ := hread
    exact ⟨e, token, Translation.bind_of_error hread⟩
  | some v =>
    obtain ⟨mid, hread, hmid⟩ := hread
    rw [bind_of_ok hread]
    exact hf v rfl mid r hmid hr

theorem bind_some {v : α} (hc : Yields c ts F (some v)) (hf : Yields (f v) ts' G w?) (hF : ∀ r, G r → F (ts' ++ r)) :
    Yields (c >>= f) (ts ++ ts') G w? := by
  have hbind := hc.bind (g := fun _ => w?) (fun v' hv' => by cases hv'; exact hf) hF
  exact hbind

theorem bind_nil {v : α} (hc : Yields c [] F (some v)) (hf : Yields (f v) ts G w?)
    (hF : ∀ r, G r → F (ts ++ r)) : Yields (c >>= f) ts G w? := by
  have hbind := hc.bind_some hf hF
  exact hbind

theorem bind_pure {g : α → Option β} (hc : Yields c ts F v?) (hf : ∀ v, v? = some v → Yields (f v) [] F (g v)) :
    Yields (c >>= f) ts F (v?.bind g) := by
  have hbind := hc.bind hf fun r hr => hr
  rwa [List.append_nil] at hbind

theorem map (hc : Yields c ts F v?) (g : α → β) :
    Yields (c >>= fun a => Pure.pure (g a)) ts F (v?.map g) := by
  have hbind := hc.bind_pure (g := fun v => some (g v)) fun v _ => pure (g v)
  rwa [Option.map_eq_bind]

/-! ### Reductions -/

theorem complete (hpermits : ∀ red, u.permits red = true) (production : Production) (tokens : List SourceToken)
    (a : α) : Yields (Translation.complete u production tokens (.ok a)) [] F (some a) :=
  fun input _ htokens _ => ⟨input, Translation.complete_of_permits (hpermits _) a input, htokens⟩

theorem complete_orDegenerate (hpermits : ∀ red, u.permits red = true) (production : Production)
    (tokens : List SourceToken) (token : SourceToken) (r : Except GeometryError α) :
    Yields (Translation.complete u production tokens (orDegenerate token r)) [] F r.toOption := by
  cases r with
  | ok a => exact complete hpermits production tokens a
  | error e =>
    intro input _ _ _
    refine ⟨e, token, ?_⟩
    unfold Translation.complete
    rw [if_pos (hpermits _)]
    rfl

/-! ### The next tokens -/

theorem take_bind {p : Phrase α} {token : Token} (a : Place → α)
    (hp : ∀ place rest, (p (⟨token, place⟩ :: rest)).outcome = .ok (a place, rest))
    (hf : ∀ place, Yields (f (a place)) ts F w?) : Yields (read p >>= f) (token :: ts) F w? := by
  intro input r htokens hr
  obtain ⟨place, rest, rfl, hrest⟩ := tokensOf_eq_cons htokens
  rw [bind_of_ok (read_of_ok (hp place rest))]
  exact hf place rest r hrest hr

theorem look_bind {p : Phrase α} (a : α)
    (hp : ∀ input r, tokensOf input = ts ++ r → F r → (p input).outcome = .ok (a, input))
    (hf : Yields (f a) ts F w?) : Yields (read p >>= f) ts F w? := by
  intro input r htokens hr
  rw [bind_of_ok (read_of_ok (hp input r htokens hr))]
  exact hf input r htokens hr

theorem next_bind {f : SourceToken → Translation β} {expected : String} {token : Token}
    (hf : ∀ place, Yields (f ⟨token.text, place⟩) ts F w?) :
    Yields (read (Phrase.next expected) >>= f) (token :: ts) F w? :=
  take_bind (fun place => ⟨token.text, place⟩) (fun _ _ => rfl) hf

theorem require_bind {f : Unit → Translation β} {sign : Sign} (hf : Yields (f ()) ts F w?) :
    Yields (read (Phrase.require sign) >>= f) (.sign sign :: ts) F w? :=
  take_bind (fun _ => ()) (fun place rest => require_sign sign place rest) fun _ => hf

theorem acceptIf_bind {sort : Token → Bool} {f : Option SourceToken → Translation β} {token : Token}
    (hsort : sort token = true) (hf : ∀ place, Yields (f (some ⟨token.text, place⟩)) ts F w?) :
    Yields (read (Phrase.acceptIf sort) >>= f) (token :: ts) F w? :=
  take_bind (fun place => some ⟨token.text, place⟩)
    (fun _ _ => by rw [Phrase.acceptIf, if_pos hsort]; rfl) hf

theorem expectIf_bind {sort : Token → Bool} {expected : String} {f : SourceToken → Translation β}
    {token : Token} (hsort : sort token = true) (hf : ∀ place, Yields (f ⟨token.text, place⟩) ts F w?) :
    Yields (read (Phrase.expectIf sort expected) >>= f) (token :: ts) F w? := by
  refine take_bind (fun place => ⟨token.text, place⟩) (fun place rest => ?_) hf
  have haccept : (Phrase.acceptIf sort (⟨token, place⟩ :: rest)).outcome = .ok (some ⟨token.text, place⟩, rest) := by
    rw [Phrase.acceptIf, if_pos hsort]
    rfl
  rw [Phrase.expectIf, Phrase.outcome_bind, haccept]
  rfl

theorem peek_bind {f : Option Token → Translation β} {token : Token}
    (hf : Yields (f (some token)) (token :: ts) F w?) :
    Yields (read Phrase.peek >>= f) (token :: ts) F w? := by
  refine look_bind (some token) (fun input r htokens _ => ?_) hf
  obtain ⟨place, rest, rfl, _⟩ := tokensOf_eq_cons htokens
  rfl

theorem here_bind {f : SourceToken → Translation β} {expected : String} (hts : ts ≠ [])
    (hf : ∀ token, Yields (f token) ts F w?) : Yields (read (Phrase.here expected) >>= f) ts F w? := by
  intro input r htokens hr
  obtain ⟨token, ts, rfl⟩ := List.exists_cons_of_ne_nil hts
  obtain ⟨place, rest, rfl, _⟩ := tokensOf_eq_cons htokens
  have hhere : (Phrase.here expected (⟨token, place⟩ :: rest)).outcome =
      .ok (⟨token.text, place⟩, ⟨token, place⟩ :: rest) := rfl
  rw [bind_of_ok (read_of_ok hhere)]
  exact hf _ _ r htokens hr

theorem acceptIf_none {sort : Token → Bool} {input : List Lexeme} (h : Without sort (tokensOf input)) :
    (Phrase.acceptIf sort input).outcome = .ok (none, input) := by
  rcases input with _ | ⟨l, input⟩
  · rfl
  · rw [Phrase.acceptIf, if_neg (by rw [h l.token rfl]; decide)]

theorem acceptIf_none_bind {sort : Token → Bool} {f : Option SourceToken → Translation β}
    (hsort : ∀ r, F r → Without sort (ts ++ r)) (hf : Yields (f none) ts F w?) :
    Yields (read (Phrase.acceptIf sort) >>= f) ts F w? :=
  look_bind none (fun _ r htokens hr => acceptIf_none (htokens ▸ hsort r hr)) hf

theorem parenFollows_bind {f : Bool → Translation β} {called : Bool}
    (hcalled : ∀ r, F r → ((ts ++ r).tail.head? == some (.sign .leftParen)) = called)
    (hf : Yields (f called) ts F w?) : Yields (read Grammar.parenFollows >>= f) ts F w? := by
  refine look_bind called (fun input r htokens hr => ?_) hf
  have hsecond : input.tail.head?.map Lexeme.token = (ts ++ r).tail.head? := by
    rw [← htokens, tokensOf]
    rcases input with _ | ⟨l, _ | ⟨l', input⟩⟩ <;> rfl
  rw [← hcalled r hr, ← hsecond]
  rfl

/-! ### Repetitions -/

section Repetition

variable {separator : Phrase (Option γ)} {item : γ → Translation β} {head : δ → Token}
  {tokens : δ → List Token} {value : δ → Option β} {xs : List δ}

theorem repeatUpTo
    (htakes : ∀ x ∈ xs, ∀ place rest, ∃ a, (separator (⟨head x, place⟩ :: rest)).outcome = .ok (some a, rest) ∧
      Yields (item a) (tokens x) F (value x))
    (hstops : ∀ input, G (tokensOf input) → (separator input).outcome = .ok (none, input))
    (hF : ∀ x ∈ xs, ∀ r, F (head x :: r)) (hFG : ∀ r, G r → F r) {fuel : Nat} (hfuel : xs.length ≤ fuel) :
    Yields (Translation.repeatUpTo separator item fuel) (xs.flatMap fun x => head x :: tokens x) G
      (xs.mapM value) := by
  induction xs generalizing fuel with
  | nil =>
    intro input r htokens hr
    refine ⟨input, ?_, htokens⟩
    cases fuel with
    | zero => rfl
    | succ fuel => exact bind_of_ok (read_of_ok (hstops input (htokens ▸ hr)))
  | cons x xs ih =>
    obtain ⟨fuel, rfl⟩ := Nat.exists_eq_add_one_of_ne_zero (Nat.ne_zero_of_lt hfuel)
    have hmore := ih (fun y hy => htakes y (List.mem_cons_of_mem _ hy))
      (fun y hy => hF y (List.mem_cons_of_mem _ hy)) (Nat.le_of_succ_le_succ hfuel)
    have hfollow : ∀ r, G r → F ((xs.flatMap fun x => head x :: tokens x) ++ r) := by
      intro r hr
      cases xs with
      | nil => exact hFG r hr
      | cons y ys => exact hF y (List.mem_cons_of_mem _ List.mem_cons_self) _
    intro input r htokens hr
    rw [List.flatMap_cons, List.cons_append] at htokens
    obtain ⟨place, rest, rfl, hrest⟩ := tokensOf_eq_cons htokens
    obtain ⟨a, hseparator, hitem⟩ := htakes x List.mem_cons_self place rest
    have hnext : Yields (item a >>= fun b => Translation.repeatUpTo separator item fuel >>= fun bs =>
        Pure.pure (b :: bs)) (tokens x ++ xs.flatMap fun x => head x :: tokens x) G ((x :: xs).mapM value) := by
      rw [List.mapM_cons]
      exact hitem.bind (fun b _ => hmore.bind_pure fun bs _ => pure (b :: bs)) hfollow
    rw [Translation.repeatUpTo, bind_of_ok (read_of_ok hseparator)]
    exact hnext rest r hrest hr

theorem repeatAfter
    (htakes : ∀ x ∈ xs, ∀ place rest, ∃ a, (separator (⟨head x, place⟩ :: rest)).outcome = .ok (some a, rest) ∧
      Yields (item a) (tokens x) F (value x))
    (hstops : ∀ input, G (tokensOf input) → (separator input).outcome = .ok (none, input))
    (hF : ∀ x ∈ xs, ∀ r, F (head x :: r)) (hFG : ∀ r, G r → F r) :
    Yields (Translation.repeatAfter separator item) (xs.flatMap fun x => head x :: tokens x) G
      (xs.mapM value) := by
  have hlength : ∀ xs : List δ, xs.length ≤ (xs.flatMap fun x => head x :: tokens x).length := by
    intro xs
    induction xs with
    | nil => exact Nat.le_refl 0
    | cons x xs ih =>
      rw [List.flatMap_cons, List.length_append, List.length_cons, List.length_cons]
      omega
  intro input r htokens hr
  have hfuel : xs.length ≤ input.length := by
    have htotal : (tokensOf input).length = input.length := List.length_map _
    rw [htokens, List.length_append] at htotal
    have hle := hlength xs
    omega
  exact repeatUpTo htakes hstops hF hFG hfuel input r htokens hr

theorem repeatAfter_none (hstops : ∀ input, G (tokensOf input) → (separator input).outcome = .ok (none, input)) :
    Yields (Translation.repeatAfter separator item) [] G (some []) :=
  fun input _ htokens hr =>
    ⟨input, Translation.repeatAfter_of_none (hstops input (htokens ▸ hr)) item, htokens⟩

theorem commaSeparated {item : Translation β} {x : δ} {signs : List Sign} (hsigns : .comma ∉ signs)
    (hitem : ∀ y ∈ x :: xs, Yields item (tokens y) (Followed (.comma :: signs)) (value y)) :
    Yields (Translation.commaSeparated item) (commaTokens tokens (x :: xs)) (Followed signs)
      ((value x).bind fun b => (xs.mapM value).map fun bs => (b, bs)) := by
  have hmore : Yields (Translation.repeatAfter (Phrase.accept .comma) fun _ => item)
      (xs.flatMap fun y => .sign .comma :: tokens y) (Followed signs) (xs.mapM value) :=
    repeatAfter
      (fun y hy place rest => ⟨_, accept_sign .comma place rest, hitem y (List.mem_cons_of_mem _ hy)⟩)
      (fun _ hinput => hinput.accept_none hsigns)
      (fun _ _ => followed_cons List.mem_cons_self)
      (fun _ hr => hr.mono fun _ => List.mem_cons_of_mem _)
  refine (hitem x List.mem_cons_self).bind (fun b _ => hmore.map fun bs => (b, bs)) fun r hr => ?_
  cases xs with
  | nil => exact hr.mono fun _ => List.mem_cons_of_mem _
  | cons y ys => exact followed_cons List.mem_cons_self _

theorem parenthesized {body : Translation α} (h : Yields body ts (Followed [.rightParen]) v?) :
    Yields (Translation.parenthesized body) (.sign .leftParen :: (ts ++ [.sign .rightParen])) F v? := by
  have hclose : ∀ v : α, Yields (read (Phrase.require .rightParen) >>= fun _ => Pure.pure v)
      [.sign .rightParen] F (some v) := fun v => require_bind (pure v)
  have hbody := h.bind (fun v _ => hclose v) fun r _ => followed_cons List.mem_cons_self r
  rw [Option.bind_fun_some] at hbody
  exact require_bind hbody

end Repetition

end Yields

end GeoFilter
