import GeoFilter.Proofs.Derivation
import GeoFilter.Proofs.Phrase
import GeoFilter.Proofs.Translation.Expression

/-!
# Reading derivations

A translation `Reads` a nonterminal, if it makes a value of some lexemes exactly where one of its trees has the
tokens in front and this value.  A tree may be read only where the lexemes behind it do not let it go on; in a
derivation they are `Followed` by a sign that closes it.
-/

namespace GeoFilter

open Translation (bind_of_ok bind_eq_ok read_of_ok read_eq_ok)

def tokensOf (input : List Lexeme) : List Token := input.map Lexeme.token

theorem tokensOf_eq_cons {input : List Lexeme} {token : Token} {r : List Token}
    (h : tokensOf input = token :: r) : ∃ place rest, input = ⟨token, place⟩ :: rest ∧ tokensOf rest = r := by
  obtain ⟨⟨token', place⟩, rest, rfl, rfl, hrest⟩ := List.map_eq_cons_iff.mp h
  exact ⟨place, rest, rfl, hrest⟩

/-! ### What may stand around a tree -/

def Keyword.startsGeometry : Keyword → Bool
  | .SRID | .ENVELOPE | .shape _ => true
  | _ => false

/-- Whether a token is a word that starts a geometry literal. -/
def Token.startsGeometry (token : Token) : Bool :=
  token.keyword?.any Keyword.startsGeometry

/-- Whether none of some tokens starts a geometry literal. -/
def WithoutGeometry (tokens : List Token) : Prop :=
  ∀ token ∈ tokens, token.startsGeometry = false

theorem WithoutGeometry.append {r r' : List Token} (h : WithoutGeometry (r ++ r')) : WithoutGeometry r' :=
  fun token htoken => h token (List.mem_append_right _ htoken)

theorem WithoutGeometry.tail {token : Token} {r : List Token} (h : WithoutGeometry (token :: r)) :
    WithoutGeometry r :=
  fun token htoken => h token (List.mem_cons_of_mem _ htoken)

theorem WithoutGeometry.rest {input mid : List Lexeme} {r r' : List Token} (h : WithoutGeometry (tokensOf input))
    (htokens : tokensOf input = r ++ r') (hmid : tokensOf mid = r') : WithoutGeometry (tokensOf mid) := by
  rw [hmid]
  exact (htokens ▸ h).append

/-- Whether tokens are at their end or go on with one of some signs. -/
def Followed (signs : List Sign) (r : List Token) : Prop :=
  ∀ token r', r = token :: r' → ∃ sign ∈ signs, token = .sign sign

theorem Followed.mono {signs signs' : List Sign} {r : List Token} (h : Followed signs r)
    (hsigns : ∀ sign ∈ signs, sign ∈ signs') : Followed signs' r := by
  intro token r' hr
  obtain ⟨sign, hsign, htoken⟩ := h token r' hr
  exact ⟨sign, hsigns sign hsign, htoken⟩

theorem followed_cons {signs : List Sign} {sign : Sign} (h : sign ∈ signs) (r : List Token) :
    Followed signs (.sign sign :: r) := by
  intro token r' hr
  cases hr
  exact ⟨sign, h, rfl⟩

theorem Followed.accept_none {signs : List Sign} {input : List Lexeme} (h : Followed signs (tokensOf input))
    {sign : Sign} (hsign : sign ∉ signs) : (Phrase.accept sign input).outcome = .ok (none, input) := by
  refine Phrase.accept_of_ne fun place rest hinput => ?_
  subst hinput
  obtain ⟨sign', hmem, heq⟩ := h _ _ rfl
  cases heq
  exact hsign hmem

/-- Whether every tree starts with something else than a closing parenthesis. -/
def Nonterminal.Opens (N : Nonterminal V) : Prop :=
  ∀ t, ∃ token r, N.tokens t = token :: r ∧ token ≠ .sign .rightParen

/-- Whether every tree starts with one of some signs. -/
def Nonterminal.StartsWith (N : Nonterminal V) (signs : List Sign) : Prop :=
  ∀ t, ∃ sign ∈ signs, ∃ r, N.tokens t = .sign sign :: r

theorem Nonterminal.StartsWith.followed {N : Nonterminal V} {signs closers : List Sign}
    (h : N.StartsWith signs) (ts : List N.Tree) {r : List Token} (hr : Followed closers r) :
    Followed (signs ++ closers) (ts.flatMap N.tokens ++ r) := by
  cases ts with
  | nil => exact hr.mono fun sign hsign => List.mem_append_right _ hsign
  | cons t ts =>
    obtain ⟨sign, hsign, r', ht⟩ := h t
    rw [List.flatMap_cons, ht]
    exact followed_cons (List.mem_append_left _ hsign) _

/-! ### Translations that read nonterminals -/

/-- Whether a translation reads the trees of a nonterminal, each where it is followed by one of some signs. -/
structure Reads (c : Translation V) (N : Nonterminal V) (closers : List Sign) : Prop where
  opens : N.Opens
  sound : ∀ {input v rest}, WithoutGeometry (tokensOf input) → c input = .ok (v, rest) →
    ∃ t, tokensOf input = N.tokens t ++ tokensOf rest ∧ N.value t = v
  complete : ∀ {input t r}, WithoutGeometry (tokensOf input) → tokensOf input = N.tokens t ++ r →
    Followed closers r → ∃ rest, c input = .ok (N.value t, rest) ∧ tokensOf rest = r

/-- Whether a separator and the item behind it read the trees of a nonterminal. -/
structure ReadsNext (separator : Phrase (Option γ)) (item : γ → Translation V) (N : Nonterminal V)
    (signs closers : List Sign) : Prop where
  starts : N.StartsWith signs
  rest_of_none : ∀ {input rest}, (separator input).outcome = .ok (none, rest) → rest = input
  none_of_followed : ∀ {input}, Followed closers (tokensOf input) →
    (separator input).outcome = .ok (none, input)
  sound : ∀ {input a mid v rest}, WithoutGeometry (tokensOf input) →
    (separator input).outcome = .ok (some a, mid) → item a mid = .ok (v, rest) →
    ∃ t, tokensOf input = N.tokens t ++ tokensOf rest ∧ N.value t = v
  complete : ∀ {input t r}, WithoutGeometry (tokensOf input) → tokensOf input = N.tokens t ++ r →
    Followed (signs ++ closers) r → ∃ a mid rest, (separator input).outcome = .ok (some a, mid) ∧
      item a mid = .ok (N.value t, rest) ∧ tokensOf rest = r

namespace ReadsNext

variable {separator : Phrase (Option γ)} {item : γ → Translation V} {N : Nonterminal V}
  {signs closers : List Sign}

theorem repeatUpTo_sound (h : ReadsNext separator item N signs closers) {fuel : Nat} {input rest : List Lexeme}
    {vs : List V} (hinput : WithoutGeometry (tokensOf input))
    (hread : Translation.repeatUpTo separator item fuel input = .ok (vs, rest)) :
    ∃ ts : List N.Tree, tokensOf input = ts.flatMap N.tokens ++ tokensOf rest ∧ ts.map N.value = vs := by
  induction fuel generalizing input vs with
  | zero =>
    cases hread
    exact ⟨[], rfl, rfl⟩
  | succ fuel ih =>
    obtain ⟨a?, mid, hseparator, hread⟩ := bind_eq_ok hread
    cases a? with
    | none =>
      cases hread
      rw [h.rest_of_none (read_eq_ok hseparator)]
      exact ⟨[], rfl, rfl⟩
    | some a =>
      obtain ⟨v, mid', hitem, hread⟩ := bind_eq_ok hread
      obtain ⟨vs', _, hmore, hpure⟩ := bind_eq_ok hread
      cases hpure
      obtain ⟨t, ht, rfl⟩ := h.sound hinput (read_eq_ok hseparator) hitem
      obtain ⟨ts, hts, rfl⟩ := ih (ht ▸ hinput).append hmore
      refine ⟨t :: ts, ?_, rfl⟩
      rw [ht, hts, List.flatMap_cons, List.append_assoc]

theorem repeatUpTo_complete (h : ReadsNext separator item N signs closers) {fuel : Nat} {ts : List N.Tree}
    (hfuel : ts.length ≤ fuel) {input : List Lexeme} {r : List Token}
    (hinput : WithoutGeometry (tokensOf input)) (htokens : tokensOf input = ts.flatMap N.tokens ++ r)
    (hr : Followed closers r) :
    ∃ rest, Translation.repeatUpTo separator item fuel input = .ok (ts.map N.value, rest) ∧
      tokensOf rest = r := by
  induction ts generalizing fuel input with
  | nil =>
    refine ⟨input, ?_, htokens⟩
    cases fuel with
    | zero => rfl
    | succ fuel =>
      have hfollowed : Followed closers (tokensOf input) := by
        rw [htokens]
        exact hr
      exact bind_of_ok (read_of_ok (h.none_of_followed hfollowed))
  | cons t ts ih =>
    cases fuel with
    | zero => exact absurd hfuel (Nat.not_succ_le_zero _)
    | succ fuel =>
      rw [List.flatMap_cons, List.append_assoc] at htokens
      obtain ⟨a, mid, mid', hseparator, hitem, hmid'⟩ := h.complete hinput htokens (h.starts.followed ts hr)
      have hplain : WithoutGeometry (tokensOf mid') := hinput.rest htokens hmid'
      obtain ⟨rest, hmore, hrest⟩ := ih (Nat.le_of_succ_le_succ hfuel) hplain hmid'
      refine ⟨rest, ?_, hrest⟩
      rw [Translation.repeatUpTo, bind_of_ok (read_of_ok hseparator)]
      dsimp only
      rw [bind_of_ok hitem, bind_of_ok hmore]
      rfl

theorem length_le (h : ReadsNext separator item N signs closers) (ts : List N.Tree) :
    ts.length ≤ (ts.flatMap N.tokens).length := by
  induction ts with
  | nil => exact Nat.le_refl 0
  | cons t ts ih =>
    obtain ⟨sign, _, r, ht⟩ := h.starts t
    rw [List.flatMap_cons, ht, List.length_append, List.length_cons, List.length_cons]
    omega

theorem repeatAfter_sound (h : ReadsNext separator item N signs closers) {input rest : List Lexeme}
    {vs : List V} (hinput : WithoutGeometry (tokensOf input))
    (hread : Translation.repeatAfter separator item input = .ok (vs, rest)) :
    ∃ ts : List N.Tree, tokensOf input = ts.flatMap N.tokens ++ tokensOf rest ∧ ts.map N.value = vs :=
  h.repeatUpTo_sound hinput hread

theorem repeatAfter_complete (h : ReadsNext separator item N signs closers) {ts : List N.Tree}
    {input : List Lexeme} {r : List Token} (hinput : WithoutGeometry (tokensOf input))
    (htokens : tokensOf input = ts.flatMap N.tokens ++ r) (hr : Followed closers r) :
    ∃ rest, Translation.repeatAfter separator item input = .ok (ts.map N.value, rest) ∧ tokensOf rest = r := by
  refine h.repeatUpTo_complete ?_ hinput htokens hr
  have hlength : (tokensOf input).length = input.length := List.length_map _
  rw [htokens, List.length_append] at hlength
  have hle := h.length_le ts
  omega

end ReadsNext

end GeoFilter
