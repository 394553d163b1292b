import GeoFilter.Proofs.Derivation.Reading

/-!
# Reading grouped operands

Operands with operators between them are read one after the other.  Their tree is that of a first operand with
the others added to it from the left.
-/

namespace GeoFilter

open Translation (bind_of_ok bind_eq_ok read_of_ok read_eq_ok)

/-- Whether a setting permits every reduction and makes plain nodes. -/
structure Setting.IsPlain (u : Setting) : Prop where
  permits : ∀ r, u.permits r = true
  factory : u.kit.factory = .plain

/-! ### Trees of grouped operands -/

def nexts (ops : List Operator) (A : Nonterminal Expression) : Nonterminal (ArithmeticOp × Expression) :=
  ⟨Next ops A.Tree, Next.tokens A, fun next => (next.operator.2, A.value next.operand)⟩

namespace LeftGrouped

variable {ops : List Operator} {A : Nonterminal Expression}

def extended (left : LeftGrouped ops A.Tree) : List (nexts ops A).Tree → LeftGrouped ops A.Tree
  | [] => left
  | next :: others => extended (.more left next) others

theorem extended_append (left : LeftGrouped ops A.Tree) (more : List (nexts ops A).Tree)
    (next : (nexts ops A).Tree) : extended left (more ++ [next]) = .more (extended left more) next := by
  induction more generalizing left with
  | nil => rfl
  | cons first more ih => exact ih (.more left first)

theorem exists_extended (t : LeftGrouped ops A.Tree) :
    ∃ operand more, t = extended (A := A) (.single operand) more := by
  induction t with
  | single operand => exact ⟨operand, [], rfl⟩
  | more left next ih =>
    obtain ⟨operand, more, rfl⟩ := ih
    have happend := extended_append (.single operand) more next
    exact ⟨operand, _, happend.symm⟩

theorem tokens_more (left : LeftGrouped ops A.Tree) (next : (nexts ops A).Tree) :
    LeftGrouped.tokens A (.more left next) = left.tokens A ++ (nexts ops A).tokens next := rfl

theorem tokens_extended (left : LeftGrouped ops A.Tree) (more : List (nexts ops A).Tree) :
    (extended left more).tokens A = left.tokens A ++ more.flatMap (nexts ops A).tokens := by
  induction more generalizing left with
  | nil => exact (List.append_nil _).symm
  | cons next more ih =>
    rw [extended, ih, tokens_more, List.flatMap_cons, List.append_assoc]

theorem value_extended {u : Setting} (hu : u.IsPlain) (left : LeftGrouped ops A.Tree)
    (more : List (nexts ops A).Tree) :
    (extended left more).value A = Translation.grouped u (left.value A) (more.map (nexts ops A).value) := by
  induction more generalizing left with
  | nil => rfl
  | cons next more ih =>
    rw [extended, ih, List.map_cons]
    unfold Translation.grouped
    rw [List.foldl_cons, hu.factory]
    rfl

end LeftGrouped

theorem opens_leftGrouped {ops : List Operator} {A : Nonterminal Expression} (h : A.Opens) :
    (leftGrouped ops A).Opens := by
  intro t
  obtain ⟨a, more, rfl⟩ := LeftGrouped.exists_extended t
  obtain ⟨token, r, ha, hne⟩ := h a
  refine ⟨token, r ++ more.flatMap (nexts _ A).tokens, ?_, hne⟩
  change (LeftGrouped.extended _ more).tokens A = _
  rw [LeftGrouped.tokens_extended, LeftGrouped.tokens, ha]
  rfl

theorem startsWith_nexts {ops : List Operator} {A : Nonterminal Expression} :
    (nexts ops A).StartsWith (ops.map Prod.fst) :=
  fun next => ⟨next.operator.1, List.mem_map_of_mem next.mem, A.tokens next.operand, rfl⟩

/-! ### Reading them -/

variable {first second : Operator}

theorem acceptOperator_eq_ok {input rest : List Lexeme} {x? : Option (SourceToken × ArithmeticOp)}
    (h : (Grammar.acceptOperator first second input).outcome = .ok (x?, rest)) :
    (x? = none ∧ rest = input) ∨ ∃ operator ∈ [first, second], ∃ place token,
      input = ⟨.sign operator.1, place⟩ :: rest ∧ x? = some (token, operator.2) := by
  obtain ⟨token?, mid, hfirst, h⟩ := Phrase.outcome_bind_eq_ok h
  rcases Phrase.acceptIf_eq_ok hfirst with ⟨⟨token, place⟩, rfl, hsort, rfl⟩ | ⟨rfl, rfl⟩
  · cases h
    cases beq_iff_eq.mp hsort
    exact .inr ⟨first, List.mem_cons_self, place, _, rfl, rfl⟩
  · obtain ⟨token?, mid', hsecond, h⟩ := Phrase.outcome_bind_eq_ok h
    cases h
    rcases Phrase.acceptIf_eq_ok hsecond with ⟨⟨token, place⟩, rfl, hsort, rfl⟩ | ⟨rfl, rfl⟩
    · cases beq_iff_eq.mp hsort
      exact .inr ⟨second, List.mem_cons_of_mem _ List.mem_cons_self, place, _, rfl, rfl⟩
    · exact .inl ⟨rfl, rfl⟩

theorem acceptOperator_of_sign (hne : first.1 ≠ second.1) {operator : Operator}
    (hmem : operator ∈ [first, second]) (place : Place) (rest : List Lexeme) :
    ∃ token, (Grammar.acceptOperator first second (⟨.sign operator.1, place⟩ :: rest)).outcome =
      .ok (some (token, operator.2), rest) := by
  unfold Grammar.acceptOperator
  rw [Phrase.outcome_bind]
  rcases List.mem_cons.mp hmem with rfl | hsecond
  · rw [accept_sign]
    exact ⟨_, rfl⟩
  · obtain rfl := List.mem_singleton.mp hsecond
    have hnone : (Phrase.accept first.1 (⟨.sign operator.1, place⟩ :: rest)).outcome =
        .ok (none, ⟨.sign operator.1, place⟩ :: rest) := by
      refine Phrase.accept_of_ne fun place' rest' heq => ?_
      exact hne (Token.sign.inj (congrArg Lexeme.token (List.cons.inj heq).1)).symm
    rw [hnone]
    dsimp only
    rw [Phrase.outcome_bind, accept_sign]
    exact ⟨_, rfl⟩

variable {u : Setting} {operand : Translation Expression} {A : Nonterminal Expression}
  {closers : List Sign}

theorem reads_nexts (hu : u.IsPlain) (hne : first.1 ≠ second.1) (hfirst : first.1 ∉ closers)
    (hsecond : second.1 ∉ closers) (hoperand : Reads operand A ([first.1, second.1] ++ closers)) :
    ReadsNext (Grammar.acceptOperator first second) (Translation.nextOperand u operand)
      (nexts [first, second] A) [first.1, second.1] closers where
  starts := startsWith_nexts
  rest_of_none h := by
    rcases acceptOperator_eq_ok h with ⟨_, hrest⟩ | ⟨_, _, _, _, _, hsome⟩
    · exact hrest
    · cases hsome
  none_of_followed h := by
    unfold Grammar.acceptOperator
    rw [Phrase.outcome_bind, h.accept_none hfirst]
    dsimp only
    rw [Phrase.outcome_bind, h.accept_none hsecond]
    rfl
  sound hinput hseparator hitem := by
    rcases acceptOperator_eq_ok hseparator with ⟨hnone, _⟩ | ⟨operator, hmem, place, token, rfl, hsome⟩
    · cases hnone
    cases hsome
    obtain ⟨x, mid', hx, hcomplete⟩ := bind_eq_ok hitem
    obtain ⟨_, hvalue, rfl⟩ := Translation.complete_eq_ok hcomplete
    cases hvalue
    obtain ⟨t, ht, rfl⟩ := hoperand.sound hinput.tail hx
    exact ⟨⟨operator, hmem, t⟩, congrArg (Token.sign operator.1 :: ·) ht, rfl⟩
  complete := by
    rintro input ⟨operator, hmem, t⟩ r hinput htokens hr
    obtain ⟨place, mid, rfl, hmid⟩ := tokensOf_eq_cons htokens
    obtain ⟨token, hseparator⟩ := acceptOperator_of_sign hne hmem place mid
    obtain ⟨rest, hx, hrest⟩ := hoperand.complete hinput.tail hmid hr
    refine ⟨_, mid, rest, hseparator, ?_, hrest⟩
    rw [Translation.nextOperand, bind_of_ok hx, Translation.complete_of_permits (hu.permits _)]
    rfl

theorem reads_leftGrouped (hu : u.IsPlain) (hne : first.1 ≠ second.1) (hfirst : first.1 ∉ closers)
    (hsecond : second.1 ∉ closers) (hoperand : Reads operand A ([first.1, second.1] ++ closers)) :
    Reads (Translation.leftGrouped u (Grammar.acceptOperator first second) operand)
      (leftGrouped [first, second] A) closers := by
  have hnexts := reads_nexts hu hne hfirst hsecond hoperand
  refine ⟨opens_leftGrouped hoperand.opens, fun hinput hread => ?_, fun {input t r} hinput htokens hr => ?_⟩
  · obtain ⟨x, mid, hx, hread⟩ := bind_eq_ok hread
    obtain ⟨vs, mid', hmore, hpure⟩ := bind_eq_ok hread
    cases hpure
    obtain ⟨a, ha, rfl⟩ := hoperand.sound hinput hx
    obtain ⟨more, htokens, rfl⟩ := hnexts.repeatAfter_sound (ha ▸ hinput).append hmore
    refine ⟨LeftGrouped.extended (.single a) more, ?_, LeftGrouped.value_extended hu _ more⟩
    change _ = (LeftGrouped.extended _ more).tokens A ++ _
    rw [ha, htokens, LeftGrouped.tokens_extended, LeftGrouped.tokens, List.append_assoc]
  · obtain ⟨a, more, rfl⟩ := LeftGrouped.exists_extended t
    change _ = (LeftGrouped.extended _ more).tokens A ++ _ at htokens
    rw [LeftGrouped.tokens_extended, LeftGrouped.tokens, List.append_assoc] at htokens
    obtain ⟨mid, hx, hmid⟩ := hoperand.complete hinput htokens (hnexts.starts.followed more hr)
    have hplain : WithoutGeometry (tokensOf mid) := hinput.rest htokens hmid
    obtain ⟨rest, hmore, hrest⟩ := hnexts.repeatAfter_complete hplain hmid hr
    refine ⟨rest, ?_, hrest⟩
    change _ = Except.ok ((LeftGrouped.extended _ more).value A, rest)
    rw [Translation.leftGrouped, bind_of_ok hx, bind_of_ok hmore, LeftGrouped.value_extended hu]
    rfl

end GeoFilter
