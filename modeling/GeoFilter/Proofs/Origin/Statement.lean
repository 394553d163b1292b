import GeoFilter.Proofs.Compilation
import GeoFilter.Proofs.Completed.Filter
import GeoFilter.Proofs.Origin
import GeoFilter.Proofs.Tokenizer

/-!
# Where the results of statements come from

The rules that are completed in a statement keep to it, one after the other: whatever waits on the results stack after any
of them stands in the statement (`Completed.keeps`).  A number is followed by its minus before anything else is completed,
and every number has an opposite.  So an error of a statement stands in it as well, or it is a fault of the syntax at a
lexeme or at the end (`arisesIn_of_compile`).
-/

namespace GeoFilter

open Assembly (AllStand KeptBy Keeps run step steps keeps_orFind)

variable {L : List Lexeme} {u : Setting}

/-! ### Numbers -/

/-- The token of a number writes a number in double precision, with its sign in front or not. -/
theorem Numeral.readFloat_withSign {n : Option SourceToken × SourceToken} (h : Numeral n.2.text.toList) :
    ∃ x, Decimal.readFloat? (Grammar.withSign n).text = some x := by
  obtain ⟨x, hx⟩ := h.readFloat_isSome
  obtain ⟨_ | minus, number⟩ := n
  · exact ⟨x, hx⟩
  · exact ⟨-x, h.readFloat_minus hx⟩

namespace Assembly

/-- A number is left on its own or as a literal, unless the dialect does not have its production. -/
theorem run_readsNumber {production : Production} {token : SourceToken} {v : Number}
    (hproduction : production.readsNumber token.text = true) (hv : Number.readIntegral? token.text = some v)
    (s : ResultsStack) :
    (∃ defect, run (step u.dialect u.kit ⟨production, [token]⟩) s = .error (.defect defect)) ∨
      ∃ wrap, Wraps wrap ∧
        run (step u.dialect u.kit ⟨production, [token]⟩) s = .ok ((), ⟨production, wrap v, token⟩ :: s) := by
  have hnumber : numberOf Number.readIntegral? token = .ok v := by
    rw [numberOf, hv]
    rfl
  have hliteral := run_literal (u := u) (s := s) token
  rw [show numberOf Number.readLiteral? token = .ok v by rw [numberOf, Number.readLiteral_eq, hv]; rfl] at hliteral
  have hpushed : ∀ {production : Production}, PushesNumber u production →
      run (step u.dialect u.kit ⟨production, [token]⟩) s = .ok ((), ⟨production, .number v, token⟩ :: s) := by
    intro production hpushes
    rw [hpushes token s, hnumber]
    rfl
  cases production with
  | integerLiteral =>
    rw [if_neg (by simpa [Production.readsNumber] using hproduction)] at hliteral
    exact .inr ⟨_, .literal, hliteral⟩
  | floatingLiteral =>
    rw [if_pos (by exact hproduction)] at hliteral
    exact .inr ⟨_, .literal, hliteral⟩
  | ordinate => exact .inr ⟨_, .number, hpushed pushesNumber_ordinate⟩
  | srid =>
    cases hu : u.dialect with
    | cql => exact .inr ⟨_, .number, hu ▸ hpushed (pushesNumber_srid hu)⟩
    | ecql => exact .inl ⟨_, rfl⟩
  | envelopeComponent =>
    cases hu : u.dialect with
    | cql => exact .inr ⟨_, .number, hu ▸ hpushed (pushesNumber_envelopeComponent hu)⟩
    | ecql => exact .inl ⟨_, rfl⟩
  | _ => cases hproduction

theorem standsIn_number {production : Production} {wrap : Number → Node} (hwrap : Wraps wrap) {v : Number}
    {n : Option SourceToken × SourceToken} (hn : SignedIn L n) (hv : signedValue? n = some v) :
    (⟨production, wrap v, n.1.getD n.2⟩ : Entry).StandsIn L := by
  refine ⟨?_, fun w hw => ⟨n, hn, rfl, ?_⟩⟩
  · obtain ⟨_ | minus, number⟩ := n
    · exact hn.placed_number
    · exact hn.placed_minus minus rfl
  · have hholds : (wrap v).number? = some v := by cases hwrap <;> rfl
    exact hv.trans (hholds.symm.trans hw)

/-! ### Rectangles -/

theorem keeps_boundOf {n : Option SourceToken × SourceToken} (h : Numeral n.2.text.toList) :
    Keeps L (boundOf (Grammar.withSign n)) := by
  obtain ⟨x, hx⟩ := h.readFloat_withSign
  exact keeps_orFind fun hnone => nomatch hnone.symm.trans hx

theorem keeps_envelope (hL : Numerals L) (resolver : CrsResolver) {keyword : SourceToken}
    {west east north south : Option SourceToken × SourceToken} {code : List SourceToken} (hkeyword : Placed L keyword)
    (hbounds : ∀ n ∈ [west, east, north, south], SignedIn L n) (hcode : ∀ token ∈ code, Placed L token) :
    Keeps L (envelope resolver keyword
      (Grammar.withSign west :: Grammar.withSign east :: Grammar.withSign north :: Grammar.withSign south :: code)) := by
  have hbound : ∀ n ∈ [west, east, north, south], Keeps L (boundOf (Grammar.withSign n)) :=
    fun n hn => keeps_boundOf (hL.signed (hbounds n hn))
  refine (hbound west (by simp)).andThen fun _ => (hbound east (by simp)).andThen fun _ => ?_
  refine (hbound north (by simp)).andThen fun _ => (hbound south (by simp)).andThen fun _ => ?_
  exact (keeps_attachCode _ _ hcode).andThen fun _ => keeps_pushLiteral hkeyword _

/-! ### Completed rules -/

theorem keeps_nil : Keeps L (steps u.dialect u.kit []) := keeps_pure trivial

theorem keeps_singleton {r : Reduction} (h : Keeps L (step u.dialect u.kit r)) : Keeps L (steps u.dialect u.kit [r]) :=
  h.andThen fun _ => keeps_nil

theorem keeps_append {first second : List Reduction} (h : Keeps L (steps u.dialect u.kit first))
    (h' : Keeps L (steps u.dialect u.kit second)) : Keeps L (steps u.dialect u.kit (first ++ second)) := by
  intro s hs
  have hfirst := h s hs
  rw [run_steps_append]
  rcases hrun : run (steps u.dialect u.kit first) s with (f | defect) | ⟨a, s'⟩ <;> rw [hrun] at hfirst
  · exact hfirst
  · trivial
  · exact h' s' hfirst.2

theorem prefix_singleton {r : Reduction} {done : List Reduction} (h : done <+: [r]) : done = [] ∨ done = [r] := by
  rcases List.prefix_cons_iff.mp h with hnil | ⟨more, rfl, hmore⟩
  · exact .inl hnil
  · rw [List.prefix_nil.mp hmore]
    exact .inr rfl

theorem keeps_prefix_singleton {r : Reduction} (h : Keeps L (step u.dialect u.kit r)) {done : List Reduction}
    (hdone : done <+: [r]) : Keeps L (steps u.dialect u.kit done) := by
  rcases prefix_singleton hdone with rfl | rfl
  · exact keeps_nil
  · exact keeps_singleton h

theorem keeps_rule {production : Production} {tokens : List SourceToken} (hplain : production.isPlain = true)
    (htokens : ∀ token ∈ tokens, Placed L token) : Keeps L (step u.dialect u.kit ⟨production, tokens⟩) := by
  unfold step
  split
  · cases tokens with
    | nil => exact keeps_failDefect _
    | cons token more =>
      obtain ⟨htoken, hmore⟩ := List.forall_mem_cons.mp htokens
      cases u.dialect with
      | cql => exact keeps_baseStep htoken hmore hplain
      | ecql => exact keeps_extendedStep htoken hmore hplain
  · exact keeps_failDefect _

theorem keeps_number (hL : Numerals L) {production : Production} {n : Option SourceToken × SourceToken}
    (hn : SignedIn L n) (hproduction : production.readsNumber n.2.text = true) {done : List Reduction}
    (hdone : done <+: ⟨production, [n.2]⟩ :: signReductions n.1) : Keeps L (steps u.dialect u.kit done) := by
  obtain ⟨v, w, hv, hw⟩ := (hL.signed hn).value
  have hbare : SignedIn L (none, n.2) := by
    cases hn with
    | plain hmem hnumber => exact .plain hmem hnumber
    | negative hpair _ hnumber => exact .plain (hpair.subset (by simp)) hnumber
  have hfirst : Keeps L (step u.dialect u.kit ⟨production, [n.2]⟩) := by
    intro s hs
    rcases run_readsNumber hproduction hv s with ⟨defect, hrun⟩ | ⟨wrap, hwrap, hrun⟩ <;> rw [hrun]
    · trivial
    · exact ⟨trivial, allStand_cons (standsIn_number hwrap hbare hv) hs⟩
  obtain ⟨_ | minus, number⟩ := n
  · exact keeps_prefix_singleton hfirst hdone
  · rcases List.prefix_cons_iff.mp hdone with rfl | ⟨more, rfl, hmore⟩
    · exact keeps_nil
    rcases prefix_singleton hmore with rfl | rfl
    · exact keeps_singleton hfirst
    -- the minus finds the number that was left right before
    intro s hs
    rw [steps, run_bind]
    rcases run_readsNumber hproduction hv s with ⟨defect, hrun⟩ | ⟨wrap, hwrap, hrun⟩ <;> rw [hrun]
    · trivial
    · have hnegated : negated minus number v = .ok w := by
        rw [negated, hw]
        rfl
      have hsigned : signedValue? (some minus, number) = some w := by
        rw [signedValue?]
        dsimp only at hv ⊢
        rw [hv]
        exact hw
      have hnegate := run_negativeNumber (u := u) (s := s) hwrap production minus number v
      rw [hnegated] at hnegate
      dsimp only
      rw [run_steps_singleton, hnegate]
      exact ⟨trivial, allStand_cons (standsIn_number hwrap hn hsigned) hs⟩

end Assembly

theorem Completed.keeps {rules : List Reduction} (h : Completed L rules) (hL : Numerals L) :
    ∀ done, done <+: rules → Keeps L (steps u.dialect u.kit done) := by
  induction h with
  | nil =>
    intro done hdone
    rw [List.prefix_nil.mp hdone]
    exact Assembly.keeps_nil
  | @append first second _ _ ihfirst ihsecond =>
    intro done hdone
    rcases List.prefix_or_prefix_of_prefix hdone (List.prefix_append first second) with hfirst | ⟨more, rfl⟩
    · exact ihfirst done hfirst
    · exact Assembly.keeps_append (ihfirst first List.prefix_rfl)
        (ihsecond more ((List.prefix_append_right_inj first).mp hdone))
  | number hn hproduction => exact fun done hdone => Assembly.keeps_number hL hn hproduction hdone
  | envelope hkeyword hbounds hcode =>
    intro done hdone
    refine Assembly.keeps_prefix_singleton ?_ hdone
    have henvelope := Assembly.keeps_envelope hL u.kit.resolver hkeyword hbounds hcode
    cases hu : u.dialect with
    | cql => exact (Assembly.keeps_discard _ _).andThen fun _ => henvelope
    | ecql => exact henvelope
  | rule hplain htokens =>
    exact fun done hdone => Assembly.keeps_prefix_singleton (Assembly.keeps_rule hplain htokens) hdone

/-! ### Statements -/

/-- Whatever waits on the results stack while a part is assembled stands in the statement. -/
theorem StatementPart.Within.allStand {part : StatementPart} (h : part.Within L) (hL : Numerals L)
    {done : List Reduction} (hdone : done <+: part.reductions) {s : ResultsStack} {a : Unit}
    (hrun : run (steps u.dialect u.kit done) [] = .ok (a, s)) : AllStand L s := by
  have hkept := h.reductions.keeps (u := u) hL done hdone [] (List.forall_mem_nil _)
  rw [hrun] at hkept
  exact hkept.2

/-- Whether a finding stands in a statement or is a fault of its syntax there. -/
def Finding.ArisesIn (L : List Lexeme) (atEnd : SourceToken) (f : Finding) : Prop :=
  f.StandsIn L ∨ ∃ fault : SyntaxFault, fault.IsPlaced L ∧ f = fault.toFinding atEnd

theorem finish_ne_finding (s : ResultsStack) (f : Finding) : run Assembly.finish s ≠ .error (.finding f) := by
  rcases s with _ | ⟨e, _ | ⟨e', s⟩⟩ <;> nofun

theorem arisesIn_of_part {part : StatementPart} (h : part.Within L) (hL : Numerals L) {atEnd : SourceToken}
    {f : Finding} (hrun : run (Assembly.assemblePart u.dialect u.kit atEnd part) [] = .error (.finding f)) :
    f.ArisesIn L atEnd := by
  have hkept := h.reductions.keeps (u := u) hL part.reductions List.prefix_rfl [] (List.forall_mem_nil _)
  have hsteps : run (steps u.dialect u.kit part.reductions) [] = .error (.finding f) → f.ArisesIn L atEnd := by
    intro hfound
    rw [hfound] at hkept
    exact .inl hkept
  cases part with
  | whole rules =>
    rw [Assembly.assemblePart, Assembly.run_bind] at hrun
    split at hrun
    case h_1 => exact absurd hrun (finish_ne_finding _ f)
    case h_2 hfound =>
      cases hrun
      exact hsteps hfound
  | broken rules fault =>
    rw [Assembly.assemblePart, Assembly.run_bind] at hrun
    split at hrun
    case h_1 =>
      cases hrun
      exact .inr ⟨fault, h.fault fault rfl, rfl⟩
    case h_2 hfound =>
      cases hrun
      exact hsteps hfound

/-- **Whatever is found in a statement stands there**, or it is a fault of the syntax at a lexeme or at the end. -/
theorem arisesIn_of_assembleParts (hL : Numerals L) {atEnd : SourceToken} {f : Finding} {parts : List StatementPart}
    (hparts : ∀ part ∈ parts, part.Within L)
    (hresult : (Assembly.assembleParts u.dialect u.kit atEnd parts).1 = .error (.finding f)) : f.ArisesIn L atEnd := by
  induction parts with
  | nil => cases hresult
  | cons part parts ih =>
    obtain ⟨hpart, hparts⟩ := List.forall_mem_cons.mp hparts
    rw [assembleParts_cons] at hresult
    split at hresult
    case h_1 =>
      cases hmore : (Assembly.assembleParts u.dialect u.kit atEnd parts).1 with
      | ok es =>
        rw [hmore] at hresult
        cases hresult
      | error fault =>
        rw [hmore] at hresult
        cases hresult
        exact ih hparts hmore
    case h_2 hrun =>
      cases hresult
      exact arisesIn_of_part hpart hL hrun

theorem treesOf_eq_error {toTree : Entry → Except StackDefect α} {es : List Entry} {fault : AssemblyFault}
    (h : Compiler.treesOf toTree es = .error fault) : ∃ defect, fault = .defect defect := by
  induction es with
  | nil => cases h
  | cons e es ih =>
    rw [Compiler.treesOf] at h
    split at h
    · cases h
      exact ⟨_, rfl⟩
    · cases hmore : Compiler.treesOf toTree es <;> rw [hmore] at h <;> cases h
      exact ih hmore

theorem arisesIn_of_compile {compiler : Compiler} {entry : EntryPoint} {toTree : Entry → Except StackDefect α}
    {statement : String} (hscan : scan statement = .ok L) {e : CompileError}
    (h : (compiler.compile entry toTree statement).result = .error (.error e)) :
    e.toFinding.ArisesIn L (Compiler.endToken statement) := by
  rw [compile_result compiler entry toTree hscan] at h
  cases hes : (compiler.assemble entry (Compiler.endToken statement) L).1 with
  | ok es =>
    rw [hes, Except.bind] at h
    cases htrees : Compiler.treesOf toTree es with
    | ok trees =>
      rw [htrees] at h
      cases h
    | error fault =>
      rw [htrees] at h
      obtain ⟨defect, rfl⟩ := treesOf_eq_error htrees
      cases h
  | error fault =>
    rw [hes] at h
    cases fault with
    | defect defect => cases h
    | finding f =>
      cases h
      exact arisesIn_of_assembleParts (u := compiler.setting) (numeral_of_scan hscan)
        (within_statementParts compiler.dialect entry) hes

end GeoFilter
