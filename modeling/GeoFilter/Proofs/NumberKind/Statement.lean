import GeoFilter.Proofs.GeometryText.Reading
import GeoFilter.Proofs.Origin.Statement
import GeoFilter.Proofs.Yield.Predicate
import GeoFilter.Proofs.Yield.Statement

/-!
# Numbers in statements

A number in a statement is of the kind that its numeral asks for, and behind a minus it is the opposite of the same kind.
So it is in the tree of an expression that is a number, and on the results stack wherever the grammar reads one: as a
literal, an ordinate, a bound of a BBOX, a distance, or the number of a reference system.  No other entry of the stack
holds a number, and no statement fails because a number has no kind.
-/

namespace GeoFilter

open Assembly (run steps)

/-! ### Signed numbers -/

/-- The tokens of a number, with a minus in front of it or not. -/
def numberTokens (negative : Bool) (text : String) (long : Bool) : List Token :=
  if negative then [.sign .minus, .number text long] else [.number text long]

/-- Whether a number is what a numeral writes, or the opposite of that behind a minus. -/
inductive Number.IsSigned (text : String) : Bool → Number → Prop
  | bare {v : Number} (h : v.IsWritten text) : IsSigned text false v
  | opposite {v w : Number} (h : v.IsWritten text) (hopposite : v.IsOpposite w) : IsSigned text true w

theorem Numeral.isSigned {text : String} (h : Numeral text.toList) {negative : Bool} {v : Number}
    (hv : Number.readSigned? negative text = some v) : v.IsSigned text negative := by
  rcases h.readSigned_cases hv with ⟨rfl, hbare⟩ | ⟨rfl, v', hbare, -, hopposite⟩
  · exact .bare (h.isWritten hbare)
  · exact .opposite (h.isWritten hbare) hopposite

theorem Numeral.exists_signedNumber {text : String} (h : Numeral text.toList) (negative long : Bool) :
    ∃ n : SignedNumber, n.tokens = numberTokens negative text long ∧ n.value.IsSigned text negative := by
  obtain ⟨v, hv⟩ := h.readSigned_isSome negative
  exact ⟨⟨negative, text, long, v, hv⟩, rfl, h.isSigned hv⟩

theorem isSigned_of_signedValue {L : List Lexeme} (hL : Numerals L) {n : Option SourceToken × SourceToken}
    (hn : SignedIn L n) {v : Number} (hv : signedValue? n = some v) : v.IsSigned n.2.text n.1.isSome := by
  refine (hL.signed hn).isSigned ?_
  rw [Number.readSigned?, Number.readLiteral_eq]
  obtain ⟨_ | minus, number⟩ := n <;> exact hv

theorem Numerals.of_tokens {L input : List Lexeme} (hL : Numerals L) (hinput : input <:+ L) {negative long : Bool}
    {text : String} {rest : List Token} (htokens : tokensOf input = numberTokens negative text long ++ rest) :
    Numeral text.toList := by
  have hmem : Token.number text long ∈ tokensOf input := by
    rw [htokens]
    cases negative <;> simp [numberTokens]
  obtain ⟨l, hl, htoken⟩ := List.mem_map.mp hmem
  exact hL l (hinput.subset hl) text long htoken

/-! ### Numbers on the results stack -/

/-- Whether a reading leaves some tokens and puts one entry with a number on top of every results stack. -/
def Reading.Puts (compiler : Compiler) (v : Number) (left : List Token) (r : Reading α) : Prop :=
  ∃ a rest, r.outcome = .ok (a, rest) ∧ tokensOf rest = left ∧
    ∀ s, ∃ e, run (steps compiler.dialect compiler.toolkit r.reductions) s = .ok ((), e :: s) ∧ e.node.number? = some v

/-- Whether some lexemes start with a number, wherever the grammar has one: as an ordinate, on its own before a geometry
or in an ENVELOPE, as a literal operand or a distance, and behind a comma as a bound of a BBOX. -/
structure Compiler.ReadsNumber (compiler : Compiler) (input : List Lexeme) (v : Number) (left : List Token) : Prop where
  ordinate : (Grammar.signedNumber .ordinate input).Puts compiler v left
  srid : compiler.dialect = .cql → (Grammar.signedNumber .srid input).Puts compiler v left
  envelopeComponent : compiler.dialect = .cql → (Grammar.signedNumber .envelopeComponent input).Puts compiler v left
  literal : (Grammar.signedLiteral input).Puts compiler v left
  bound : ∀ comma : Lexeme, comma.token = .sign .comma → (Grammar.commaBound (comma :: input)).Puts compiler v left

section Reading

variable {compiler : Compiler} {input rest : List Lexeme}

theorem puts_of_realizes {p : Phrase α} {c : Translation β} {b : β} {v : Number}
    (h : ∀ s, Realizes compiler.setting p s c fun _ b' s' => b' = b → ∃ e : Entry, e.node.number? = some v ∧ s' = e :: s)
    (hread : c input = .ok (b, rest)) : (p input).Puts compiler v (tokensOf rest) := by
  have hrealized : ∀ s, ∃ a, (p input).outcome = .ok (a, rest) ∧
      ∃ e, run (steps compiler.dialect compiler.toolkit (p input).reductions) s = .ok ((), e :: s) ∧
        e.node.number? = some v := by
    intro s
    have hs := h s input
    rw [hread] at hs
    cases hs with
    | value houtcome hsteps hpost =>
      obtain ⟨e, he, rfl⟩ := hpost rfl
      exact ⟨_, houtcome, e, hsteps, he⟩
  obtain ⟨a, houtcome, -⟩ := hrealized []
  exact ⟨a, rest, houtcome, rfl, fun s => (hrealized s).elim fun _ hs => hs.2⟩

theorem signedNumber_puts {production : Production} (hproduction : PushesNumber compiler.setting production)
    {n : SignedNumber} {r : List Token} (htokens : tokensOf input = n.tokens ++ r) :
    (Grammar.signedNumber production input).Puts compiler n.value r := by
  obtain ⟨signed, rest, hread, -, rfl⟩ := signedNumber_complete (u := compiler.setting) (fun _ => rfl) production n htokens
  refine puts_of_realizes (fun s => (realizes_signedNumber hproduction).mono fun token v s' hs hv => ?_) hread
  obtain rfl := hv
  exact ⟨_, rfl, hs.2⟩

theorem literal_puts {n : SignedNumber} {r : List Token} (htokens : tokensOf input = n.tokens ++ r) :
    (Grammar.signedLiteral input).Puts compiler n.value r := by
  obtain ⟨rest, hread, rfl⟩ := Yields.signedLiteral (u := compiler.setting) (F := Anything) (fun _ => rfl) n input r
    htokens trivial
  refine puts_of_realizes (fun s => realizes_signedLiteral.mono fun _ v s' hs hv => ?_) hread
  obtain rfl := hv
  obtain ⟨e, he, rfl⟩ := hs
  exact ⟨e, by rw [he.1]; rfl, rfl⟩

theorem bound_puts {n : SignedNumber} {r : List Token} (htokens : tokensOf input = n.tokens ++ r) {comma : Lexeme}
    (hcomma : comma.token = .sign .comma) : (Grammar.commaBound (comma :: input)).Puts compiler n.value r := by
  obtain ⟨rest, hread, rfl⟩ := (Yields.commaBound (u := compiler.setting) (F := Anything) (fun _ => rfl) n)
    (comma :: input) r (by rw [tokensOf, List.map_cons, hcomma]; exact congrArg _ htokens) trivial
  refine puts_of_realizes (fun s => realizes_commaBound.mono fun _ v s' hs hv => ?_) hread
  obtain rfl := hv
  obtain ⟨e, he, rfl⟩ := hs
  exact ⟨e, by rw [he.1]; rfl, rfl⟩

theorem readsNumber {n : SignedNumber} {r : List Token} (htokens : tokensOf input = n.tokens ++ r) :
    compiler.ReadsNumber input n.value r where
  ordinate := signedNumber_puts pushesNumber_ordinate htokens
  srid hdialect := signedNumber_puts (pushesNumber_srid hdialect) htokens
  envelopeComponent hdialect := signedNumber_puts (pushesNumber_envelopeComponent hdialect) htokens
  literal := literal_puts htokens
  bound _ hcomma := bound_puts htokens hcomma

end Reading

/-! ### Statements -/

theorem compileExpression_number {compiler : Compiler} {statement : String} {lexemes : List Lexeme}
    (hscan : scan statement = .ok lexemes) {n : SignedNumber} (htokens : tokensOf lexemes = n.tokens) :
    (compiler.compileExpression statement).result = .ok (.literal (.number n.value)) := by
  have hexpression : Yields (Translation.expression compiler.setting maxNesting) n.tokens EndsExpression
      (some (.literal (.number n.value))) :=
    Yields.expression_of_factor (fun _ hr => hr) (Yields.factor_number (fun _ => rfl) n)
  exact hexpression.compileExpression nofun hscan htokens

/-- Whether a compiler answers a statement with an error at some of its entry points. -/
def Compiler.FailsWith (compiler : Compiler) (statement : String) (e : CompileError) : Prop :=
  (compiler.compileFilter statement).result = .error (.error e) ∨
    (compiler.compileExpression statement).result = .error (.error e) ∨
    (compiler.compileFilterList statement).result = .error (.error e)

theorem single_eq_error {c : Compilation (List α)} {e : CompileError}
    (h : (Compiler.single c).result = .error (.error e)) : c.result = .error (.error e) := by
  rw [Compiler.single] at h
  dsimp only at h
  split at h
  · cases h
  · cases h
  · cases h
    assumption

theorem Compiler.FailsWith.exists_compile {compiler : Compiler} {statement : String} {e : CompileError}
    (h : compiler.FailsWith statement e) :
    ∃ (β : Type) (entry : EntryPoint) (toTree : Entry → Except StackDefect β),
      (compiler.compile entry toTree statement).result = .error (.error e) := by
  rcases h with h | h | h
  · exact ⟨_, _, _, single_eq_error h⟩
  · exact ⟨_, _, _, single_eq_error h⟩
  · exact ⟨_, _, _, h⟩

theorem toFinding_ne_invalidNumber (fault : SyntaxFault) (atEnd : SourceToken) (number : String) :
    (fault.toFinding atEnd).fault ≠ .invalidNumber number := by
  cases fault <;> nofun

theorem unscannable_ne_invalidNumber {statement : String} {f : Finding} (hscan : scan statement = .error f)
    (number : String) : f.fault ≠ .invalidNumber number := by
  unfold scan at hscan
  split at hscan
  · cases hscan
  · cases hscan
    nofun

theorem not_invalidNumber {compiler : Compiler} {statement : String} {e : CompileError}
    (h : compiler.FailsWith statement e) (number : String) : e.fault ≠ .invalidNumber number := by
  obtain ⟨β, entry, toTree, h⟩ := h.exists_compile
  cases hscan : scan statement with
  | error f =>
    rw [compile_unscannable compiler entry toTree hscan] at h
    cases h
    exact unscannable_ne_invalidNumber hscan number
  | ok lexemes =>
    rcases arisesIn_of_compile hscan h with hstands | ⟨fault, -, hfault⟩
    · exact hstands.notNumber number
    · have hne := toFinding_ne_invalidNumber fault (Compiler.endToken statement) number
      rwa [← hfault] at hne

/-- **Numbers have the kinds that their numerals ask for, and a minus negates them exactly**: in an expression that is a
number, and on the results stack behind everything else that is one.  At every moment a number on the stack is one that is
written in the statement, negated if its token is the minus in front.  No statement fails for want of a kind. -/
theorem numbers_as_written (compiler : Compiler) (statement : String) :
    (∀ lexemes, scan statement = .ok lexemes →
      (∀ negative text long, tokensOf lexemes = numberTokens negative text long →
        ∃ v : Number, v.IsSigned text negative ∧
          (compiler.compileExpression statement).result = .ok (.literal (.number v))) ∧
      (∀ input left negative text long, input <:+ lexemes → tokensOf input = numberTokens negative text long ++ left →
        ∃ v : Number, v.IsSigned text negative ∧ compiler.ReadsNumber input v left) ∧
      ∀ entry, ∀ part ∈ Grammar.statementParts compiler.dialect lexemes entry, ∀ done s, done <+: part.reductions →
        run (steps compiler.dialect compiler.toolkit done) [] = .ok ((), s) →
        ∀ e ∈ s, ∀ v, e.node.number? = some v →
          ∃ n, SignedIn lexemes n ∧ e.token = n.1.getD n.2 ∧ v.IsSigned n.2.text n.1.isSome) ∧
      ∀ e, compiler.FailsWith statement e → ∀ number, e.fault ≠ .invalidNumber number := by
  refine ⟨fun lexemes hscan => ⟨fun negative text long htokens => ?_,
    fun input left negative text long hinput htokens => ?_,
    fun entry part hpart done s hdone hrun e he v hv => ?_⟩, fun e he => not_invalidNumber he⟩
  · have hnumeral : Numeral text.toList :=
      Numerals.of_tokens (numeral_of_scan hscan) List.suffix_rfl (by rw [htokens, List.append_nil])
    obtain ⟨n, hn, hsigned⟩ := hnumeral.exists_signedNumber negative long
    exact ⟨n.value, hsigned, compileExpression_number hscan (htokens.trans hn.symm)⟩
  · obtain ⟨n, hn, hsigned⟩ :=
      (Numerals.of_tokens (numeral_of_scan hscan) hinput htokens).exists_signedNumber negative long
    exact ⟨n.value, hsigned, readsNumber (by rw [htokens, hn])⟩
  · have hwithin := within_statementParts compiler.dialect entry part hpart
    have hstands := hwithin.allStand (u := compiler.setting) (numeral_of_scan hscan) hdone hrun e he
    obtain ⟨n, hn, htoken, hvalue⟩ := hstands.number v hv
    exact ⟨n, hn, htoken, isSigned_of_signedValue (numeral_of_scan hscan) hn hvalue⟩

/-- The least number of 32 bits is written with 64, because a minus leaves the kind of the number behind it. -/
theorem numbers_as_written_least :
    ∃ w : Number, w.kind = .long ∧ w.toInt? = some (-2147483648) ∧
      (({} : Compiler).compileExpression "-2147483648").result = .ok (.literal (.number w)) := by
  obtain ⟨hscanned, -⟩ := numbers_as_written {} "-2147483648"
  obtain ⟨hexpression, -⟩ := hscanned _ (show scan "-2147483648" =
    .ok [⟨.sign .minus, ⟨1, 1⟩⟩, ⟨.number "2147483648" false, ⟨1, 2⟩⟩] by decide +kernel)
  obtain ⟨w, hsigned, hresult⟩ := hexpression true "2147483648" false rfl
  cases hsigned with
  | @opposite v _ hwritten hopposite =>
    have hkind : v.kind = .long := hwritten.kind.trans (by decide +kernel)
    refine ⟨w, hopposite.kind.trans hkind, hopposite.exact 2147483648 ?_, hresult⟩
    rw [hwritten.exact (by rw [hkind]; decide)]
    decide +kernel

end GeoFilter
