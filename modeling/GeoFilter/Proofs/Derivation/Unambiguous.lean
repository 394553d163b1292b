import GeoFilter.Proofs.Derivation.Factor

/-!
# Unambiguous derivations

No tokens are those of two trees.  A tree ends where a sign follows that closes it, and no part of a tree
starts with such a sign.
-/

namespace GeoFilter

/-- Whether at most one tree has its tokens at the front of some others, where one of some signs follows. -/
def Unambiguous (N : Nonterminal V) (signs : List Sign) : Prop :=
  ∀ t t' r r', Followed signs r → Followed signs r' → N.tokens t ++ r = N.tokens t' ++ r' → t = t' ∧ r = r'

/-! ### Sequences -/

section

variable {N : Nonterminal V} {signs closers : List Sign} {r r' : List Token}

theorem Nonterminal.StartsWith.flatMap_cons_ne (h : N.StartsWith signs)
    (hsigns : ∀ sign ∈ signs, sign ∉ closers) (hr : Followed closers r) (t : N.Tree) (ts : List N.Tree) :
    (t :: ts).flatMap N.tokens ++ r' ≠ r := by
  intro heq
  obtain ⟨sign, hsign, rest, ht⟩ := h t
  rw [List.flatMap_cons, ht] at heq
  obtain ⟨closer, hcloser, hsame⟩ := hr _ _ heq.symm
  cases hsame
  exact hsigns _ hsign hcloser

theorem Unambiguous.flatMap (h : Unambiguous N (signs ++ closers)) (hstarts : N.StartsWith signs)
    (hsigns : ∀ sign ∈ signs, sign ∉ closers) {ts ts' : List N.Tree} (hr : Followed closers r)
    (hr' : Followed closers r') (heq : ts.flatMap N.tokens ++ r = ts'.flatMap N.tokens ++ r') :
    ts = ts' ∧ r = r' := by
  induction ts generalizing ts' with
  | nil =>
    cases ts' with
    | nil => exact ⟨rfl, heq⟩
    | cons t' ts' => exact absurd heq.symm (hstarts.flatMap_cons_ne hsigns hr t' ts')
  | cons t ts ih =>
    cases ts' with
    | nil => exact absurd heq (hstarts.flatMap_cons_ne hsigns hr' t ts)
    | cons t' ts' =>
      rw [List.flatMap_cons, List.flatMap_cons, List.append_assoc, List.append_assoc] at heq
      obtain ⟨rfl, hrest⟩ := h t t' _ _ (hstarts.followed ts hr) (hstarts.followed ts' hr') heq
      obtain ⟨rfl, rfl⟩ := ih hrest
      exact ⟨rfl, rfl⟩

end

/-! ### Grouped operands -/

section

variable {ops : List Operator} {A : Nonterminal Expression} {closers : List Sign}

theorem unambiguous_nexts (hops : ∀ op ∈ ops, ∀ op' ∈ ops, op.1 = op'.1 → op = op')
    (hA : Unambiguous A closers) : Unambiguous (nexts ops A) closers := by
  rintro ⟨op, hop, a⟩ ⟨op', hop', a'⟩ r r' hr hr' heq
  obtain ⟨hsign, hoperand⟩ := List.cons.inj heq
  obtain rfl := hops op hop op' hop' (Token.sign.inj hsign)
  obtain ⟨rfl, rfl⟩ := hA a a' r r' hr hr' hoperand
  exact ⟨rfl, rfl⟩

theorem unambiguous_leftGrouped (hops : ∀ op ∈ ops, ∀ op' ∈ ops, op.1 = op'.1 → op = op')
    (hsigns : ∀ sign ∈ ops.map Prod.fst, sign ∉ closers)
    (hA : Unambiguous A (ops.map Prod.fst ++ closers)) : Unambiguous (leftGrouped ops A) closers := by
  intro t t' r r' hr hr' heq
  obtain ⟨a, more, rfl⟩ := LeftGrouped.exists_extended t
  obtain ⟨a', more', rfl⟩ := LeftGrouped.exists_extended t'
  change (LeftGrouped.extended _ more).tokens A ++ r = (LeftGrouped.extended _ more').tokens A ++ r' at heq
  rw [LeftGrouped.tokens_extended, LeftGrouped.tokens_extended, LeftGrouped.tokens, LeftGrouped.tokens,
    List.append_assoc, List.append_assoc] at heq
  have hstarts : (nexts ops A).StartsWith (ops.map Prod.fst) := startsWith_nexts
  obtain ⟨rfl, hmore⟩ := hA a a' _ _ (hstarts.followed more hr) (hstarts.followed more' hr') heq
  obtain ⟨rfl, rfl⟩ := (unambiguous_nexts hops hA).flatMap hstarts hsigns hr hr' hmore
  exact ⟨rfl, rfl⟩

end

/-! ### Operands -/

variable {E : Nonterminal Expression} {r r' : List Token}

theorem SignedNumber.unambiguous {n n' : SignedNumber} (h : n.tokens ++ r = n'.tokens ++ r') :
    n = n' ∧ r = r' := by
  rcases n with ⟨negative, text, long, value, hreads⟩
  rcases n' with ⟨negative', text', long', value', hreads'⟩
  have hsame : negative = negative' ∧ text = text' ∧ long = long' ∧ r = r' := by
    cases negative <;> cases negative' <;> cases h <;> exact ⟨rfl, rfl, rfl, rfl⟩
  obtain ⟨rfl, rfl, rfl, rfl⟩ := hsame
  obtain rfl := Option.some.inj (hreads.symm.trans hreads')
  exact ⟨rfl, rfl⟩

theorem SignedNumber.tokens_ne (n : SignedNumber) {token : Token} (hminus : token ≠ .sign .minus)
    (hnumber : ∀ text long, token ≠ .number text long) : n.tokens ++ r ≠ token :: r' := by
  rcases n with ⟨negative, text, long, value, hreads⟩
  intro heq
  cases negative with
  | false => exact hnumber text long (List.cons.inj heq).1.symm
  | true => exact hminus (List.cons.inj heq).1.symm

theorem unambiguous_nameParts {signs : List Sign} : Unambiguous nameParts signs := by
  rintro (⟨text, quote⟩ | ⟨text, quote⟩) (⟨text', quote'⟩ | ⟨text', quote'⟩) r r' _ _ heq
  · cases heq
    exact ⟨rfl, rfl⟩
  · cases heq
  · cases heq
  · cases heq
    exact ⟨rfl, rfl⟩

theorem unambiguous_afterComma {signs : List Sign} (hE : Unambiguous E signs) :
    Unambiguous (afterComma E) signs :=
  fun t t' r r' hr hr' heq => hE t t' r r' hr hr' (List.cons.inj heq).2

theorem commaTokens_inj (hE : Unambiguous E closers) (hopens : E.Opens) {es es' : List E.Tree}
    (heq : commaTokens E.tokens es ++ .sign .rightParen :: r =
      commaTokens E.tokens es' ++ .sign .rightParen :: r') : es = es' ∧ r = r' := by
  have hne : ∀ (e : E.Tree) (es : List E.Tree) (r r' : List Token),
      commaTokens E.tokens (e :: es) ++ r ≠ .sign .rightParen :: r' := by
    intro e es r r' heq
    obtain ⟨token, rest, he, htoken⟩ := hopens e
    rw [commaTokens, he] at heq
    exact htoken (List.cons.inj heq).1
  rcases es with _ | ⟨e, es⟩ <;> rcases es' with _ | ⟨e', es'⟩
  · exact ⟨rfl, (List.cons.inj heq).2⟩
  · exact absurd heq.symm (hne e' es' _ _)
  · exact absurd heq (hne e es _ _)
  · have hstarts : (afterComma E).StartsWith [.comma] := fun e => ⟨.comma, List.mem_cons_self, E.tokens e, rfl⟩
    have hclosed : ∀ r, Followed [.rightParen] (.sign .rightParen :: r) := followed_cons List.mem_cons_self
    rw [commaTokens, commaTokens, List.append_assoc, List.append_assoc] at heq
    obtain ⟨rfl, hmore⟩ := hE e e' _ _ (hstarts.followed es (hclosed r)) (hstarts.followed es' (hclosed r')) heq
    have hafter : Unambiguous (afterComma E) ([.comma] ++ [.rightParen]) := unambiguous_afterComma hE
    obtain ⟨rfl, hrest⟩ := hafter.flatMap hstarts (by decide) (hclosed r) (hclosed r') hmore
    exact ⟨rfl, (List.cons.inj hrest).2⟩

theorem TruthWord.token_ne (word : TruthWord) (name : Name) : Token.word word.text none ≠ name.token := by
  rcases name with ⟨text, quote, hfree⟩
  intro heq
  cases heq
  cases word.stands.symm.trans hfree

theorem Name.token_inj {name name' : Name} (h : name.token = name'.token) : name = name' := by
  rcases name with ⟨text, quote, hfree⟩
  rcases name' with ⟨text', quote', hfree'⟩
  cases h
  rfl

theorem TruthWord.token_inj {word word' : TruthWord}
    (h : Token.word word.text none = Token.word word'.text none) : word = word' := by
  rcases word with ⟨text, value, stands⟩
  rcases word' with ⟨text', value', stands'⟩
  cases h
  obtain rfl := Option.some.inj (stands.symm.trans stands')
  rfl

theorem group_inj (hE : Unambiguous E closers) {e e' : E.Tree}
    (heq : Factor.tokens E (.group e) ++ r = Factor.tokens E (.group e') ++ r') : e = e' ∧ r = r' := by
  have hinner : E.tokens e ++ [.sign .rightParen] ++ r = E.tokens e' ++ [.sign .rightParen] ++ r' :=
    (List.cons.inj heq).2
  rw [List.append_assoc, List.append_assoc] at hinner
  obtain ⟨rfl, hrest⟩ := hE e e' _ _ (followed_cons (by decide) r) (followed_cons (by decide) r') hinner
  exact ⟨rfl, (List.cons.inj hrest).2⟩

theorem call_inj (hE : Unambiguous E closers) (hopens : E.Opens) {name name' : Name} {es es' : List E.Tree}
    (heq : Factor.tokens E (.call name es) ++ r = Factor.tokens E (.call name' es') ++ r') :
    name = name' ∧ es = es' ∧ r = r' := by
  obtain ⟨hname, htail⟩ := List.cons.inj heq
  have harguments : commaTokens E.tokens es ++ [.sign .rightParen] ++ r =
      commaTokens E.tokens es' ++ [.sign .rightParen] ++ r' := (List.cons.inj htail).2
  rw [List.append_assoc, List.append_assoc] at harguments
  exact ⟨Name.token_inj hname, commaTokens_inj hE hopens harguments⟩

theorem property_inj {first first' : Name} {more more' : List NamePart} (hr : Followed operandClosers r)
    (hr' : Followed operandClosers r')
    (heq : Factor.tokens E (.property first more) ++ r = Factor.tokens E (.property first' more') ++ r') :
    first = first' ∧ more = more' ∧ r = r' := by
  obtain ⟨hname, htail⟩ := List.cons.inj heq
  exact ⟨Name.token_inj hname, unambiguous_nameParts.flatMap startsWith_nameParts (by decide) hr hr' htail⟩

/-- The first token of an operand tells its kind, except that a call and an attribute differ in the second. -/
theorem unambiguous_factors (hE : Unambiguous E closers) (hopens : E.Opens) :
    Unambiguous (factors E) operandClosers := by
  intro t t' r r' hr hr' heq
  change Factor.tokens E t ++ r = Factor.tokens E t' ++ r' at heq
  cases t with
  | number n =>
    cases t' with
    | number n' =>
      obtain ⟨rfl, rfl⟩ := SignedNumber.unambiguous heq
      exact ⟨rfl, rfl⟩
    | _ => exact absurd heq (n.tokens_ne nofun nofun)
  | quoted text =>
    cases t' with
    | quoted text' =>
      cases heq
      exact ⟨rfl, rfl⟩
    | number n => exact absurd heq.symm (n.tokens_ne nofun nofun)
    | _ => cases heq
  | truth word =>
    cases t' with
    | truth word' =>
      obtain rfl := TruthWord.token_inj (List.cons.inj heq).1
      exact ⟨rfl, (List.cons.inj heq).2⟩
    | call name es => exact absurd (List.cons.inj heq).1 (word.token_ne name)
    | property first more => exact absurd (List.cons.inj heq).1 (word.token_ne first)
    | number n => exact absurd heq.symm (n.tokens_ne nofun nofun)
    | _ => cases heq
  | group e =>
    cases t' with
    | group e' =>
      obtain ⟨rfl, rfl⟩ := group_inj hE heq
      exact ⟨rfl, rfl⟩
    | number n => exact absurd heq.symm (n.tokens_ne nofun nofun)
    | _ => cases heq
  | call name es =>
    cases t' with
    | call name' es' =>
      obtain ⟨rfl, rfl, rfl⟩ := call_inj hE hopens heq
      exact ⟨rfl, rfl⟩
    | property first more => exact absurd (List.cons.inj heq).2.symm (nameParts_ne_paren hr' more _)
    | truth word => exact absurd (List.cons.inj heq).1.symm (word.token_ne name)
    | number n => exact absurd heq.symm (n.tokens_ne nofun nofun)
    | _ => cases heq
  | property first more =>
    cases t' with
    | property first' more' =>
      obtain ⟨rfl, rfl, rfl⟩ := property_inj hr hr' heq
      exact ⟨rfl, rfl⟩
    | call name es => exact absurd (List.cons.inj heq).2 (nameParts_ne_paren hr more _)
    | truth word => exact absurd (List.cons.inj heq).1.symm (word.token_ne first)
    | number n => exact absurd heq.symm (n.tokens_ne nofun nofun)
    | _ => cases heq

end GeoFilter
