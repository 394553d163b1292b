import GeoFilter.Proofs.Framing.Filter
import GeoFilter.Proofs.Parallel.Pattern

/-!
# Reserved signs

Brackets open and close groups of predicates, and a semicolon stands behind the number in front of a geometry and between
filters; they stand nowhere else.  `Spares r c` says that no lexeme which `c` takes is one of those that `r` reserves.
A pattern without quotes would take them, but a text with one of them in it is no pattern of the nine-intersection model.
-/

namespace GeoFilter

open Translation (read bind_of_ok bind_eq_ok read_eq_ok read_phrase_bind)

def Token.isBracket : Token → Bool
  | .sign .leftBracket | .sign .rightBracket => true
  | _ => false

def Token.isSemicolon : Token → Bool
  | .sign .semicolon => true
  | _ => false

def Token.isReservable (token : Token) : Bool := token.isBracket || token.isSemicolon

/-- Some of the signs that few parts of a statement take. -/
structure Reserve where
  sort : Token → Bool
  free : ∀ {token : Token}, token.isReservable = false → sort token = false

namespace Reserve

def brackets : Reserve := ⟨Token.isBracket, fun h => (Bool.or_eq_false_iff.mp h).1⟩

def semicolons : Reserve := ⟨Token.isSemicolon, fun h => (Bool.or_eq_false_iff.mp h).2⟩

def Absent (r : Reserve) (ls : List Lexeme) : Prop := ∀ l ∈ ls, r.sort l.token = false

theorem Absent.append {r : Reserve} {ls ls' : List Lexeme} (h : r.Absent ls) (h' : r.Absent ls') :
    r.Absent (ls ++ ls') :=
  fun l hl => (List.mem_append.mp hl).elim (h l) (h' l)

end Reserve

theorem Token.isReservable_of_isWord {token : Token} {word : String} (h : token.isWord word = true) :
    token.isReservable = false := by
  cases token <;> first | rfl | cases h

def Spares (r : Reserve) (c : Translation α) : Prop :=
  ∀ input a rest, c input = .ok (a, rest) → ∃ taken, input = taken ++ rest ∧ r.Absent taken

/-- A translation that takes none of the signs, if the given lexeme is the next one. -/
def SparesAt (r : Reserve) (l : Lexeme) (c : Translation α) : Prop :=
  ∀ input a rest, c (l :: input) = .ok (a, rest) → ∃ taken, l :: input = taken ++ rest ∧ r.Absent taken

variable {r : Reserve}

theorem Spares.at {c : Translation α} (h : Spares r c) (l : Lexeme) : SparesAt r l c := fun input => h (l :: input)

/-! ### Translations one after the other -/

theorem absent_bind {c : Translation α} {f : α → Translation β} {input : List Lexeme}
    (hc : ∀ a rest, c input = .ok (a, rest) → ∃ taken, input = taken ++ rest ∧ r.Absent taken)
    (hf : ∀ a, Spares r (f a)) {b : β} {rest : List Lexeme} (h : (c >>= f) input = .ok (b, rest)) :
    ∃ taken, input = taken ++ rest ∧ r.Absent taken := by
  obtain ⟨a, mid, ha, hb⟩ := bind_eq_ok h
  obtain ⟨front, rfl, hfront⟩ := hc a mid ha
  obtain ⟨behind, rfl, hbehind⟩ := hf a mid b rest hb
  exact ⟨front ++ behind, (List.append_assoc _ _ _).symm, hfront.append hbehind⟩

namespace Spares

variable {c : Translation α} {f : α → Translation β}

theorem bind (hc : Spares r c) (hf : ∀ a, Spares r (f a)) : Spares r (c >>= f) :=
  fun input _ _ => absent_bind (hc input) hf

theorem keeping (h : ∀ input a rest, c input = .ok (a, rest) → rest = input) : Spares r c := by
  intro input a rest hc
  obtain rfl := h _ _ _ hc
  exact ⟨[], rfl, nofun⟩

theorem pure (a : α) : Spares r (Pure.pure a : Translation α) :=
  keeping fun _ _ _ h => (Prod.mk.inj (Except.ok.inj h)).2.symm

theorem map (hc : Spares r c) (g : α → β) : Spares r (c >>= fun a => Pure.pure (g a)) := hc.bind fun a => pure (g a)

theorem complete (u : Setting) (production : Production) (tokens : List SourceToken) (value : Except Finding α) :
    Spares r (Translation.complete u production tokens value) :=
  keeping fun _ _ _ h => (Translation.complete_eq_ok h).2.2

theorem fail (fault : SyntaxFault) : Spares r (read (Phrase.fail fault) : Translation α) := nofun

theorem unexpected (expected : String) : Spares r (read (Phrase.unexpected expected) : Translation α) := by
  rintro (_ | ⟨l, input⟩) a rest h <;> cases h

theorem here (expected : String) : Spares r (read (Phrase.here expected)) := by
  refine keeping ?_
  rintro (_ | ⟨l, input⟩) a rest h <;> cases h
  rfl

theorem look_bind {p : Phrase α} (hp : ∀ input a rest, (p input).outcome = .ok (a, rest) → rest = input) {l : Lexeme}
    (hf : ∀ a, SparesAt r l (f a)) : SparesAt r l (read p >>= f) := by
  intro input b rest h
  obtain ⟨a, mid, ha, hb⟩ := bind_eq_ok h
  obtain rfl := hp _ _ _ (read_eq_ok ha)
  exact hf a input b rest hb

theorem parenFollows_bind {f : Bool → Translation β} {l : Lexeme} (hf : ∀ called, SparesAt r l (f called)) :
    SparesAt r l (read Grammar.parenFollows >>= f) := by
  refine look_bind (fun input a rest h => ?_) hf
  cases h
  rfl

theorem peekSecond_bind {f : Option Token → Translation β} {l : Lexeme} (hf : ∀ token?, SparesAt r l (f token?)) :
    SparesAt r l (read Phrase.peekSecond >>= f) := by
  refine look_bind (fun input a rest h => ?_) hf
  cases h
  rfl

theorem peek_bind {f : Option Token → Translation β} (hnone : Spares r (f none))
    (hf : ∀ l : Lexeme, SparesAt r l (f (some l.token))) : Spares r (read Phrase.peek >>= f) := by
  rintro (_ | ⟨l, input⟩) b rest h
  · exact hnone [] b rest h
  · exact hf l input b rest h

theorem acceptIf {sort : Token → Bool} (hsort : ∀ token, sort token = true → r.sort token = false) :
    Spares r (read (Phrase.acceptIf sort)) := by
  rintro (_ | ⟨l, input⟩) token? rest h
  · cases h
    exact ⟨[], rfl, nofun⟩
  · by_cases hl : sort l.token = true
    · rw [read_acceptIf_of_pos hl] at h
      cases h
      exact ⟨[l], rfl, List.forall_mem_singleton.mpr (hsort _ hl)⟩
    · rw [read_acceptIf_of_neg hl] at h
      cases h
      exact ⟨[], rfl, nofun⟩

theorem accept {sign : Sign} (hsign : (Token.sign sign).isReservable = false) : Spares r (read (Phrase.accept sign)) :=
  acceptIf fun _ htoken => r.free (beq_iff_eq.mp htoken ▸ hsign)

theorem acceptWord (word : String) : Spares r (read (Phrase.acceptWord word)) :=
  acceptIf fun _ htoken => r.free (Token.isReservable_of_isWord htoken)

theorem expectIf {sort : Token → Bool} (hsort : ∀ token, sort token = true → r.sort token = false)
    (expected : String) : Spares r (read (Phrase.expectIf sort expected)) := by
  rw [Phrase.expectIf, read_phrase_bind]
  refine (acceptIf hsort).bind fun token? => ?_
  cases token? with
  | none => exact unexpected expected
  | some token => exact pure token

theorem expectWord (word : String) : Spares r (read (Phrase.expectWord word)) :=
  expectIf (fun _ htoken => r.free (Token.isReservable_of_isWord htoken)) _

theorem require_of {sign : Sign} (hsign : r.sort (.sign sign) = false) : Spares r (read (Phrase.require sign)) := by
  rw [Phrase.require, read_phrase_bind]
  exact (expectIf (fun _ htoken => beq_iff_eq.mp htoken ▸ hsign) _).map _

theorem require {sign : Sign} (hsign : (Token.sign sign).isReservable = false) : Spares r (read (Phrase.require sign)) :=
  require_of (r.free hsign)

/-! ### Repetitions -/

theorem repeatAfter {separator : Phrase (Option α)} {item : α → Translation β} (hseparator : Spares r (read separator))
    (hitem : ∀ a, Spares r (item a)) : Spares r (Translation.repeatAfter separator item) := by
  have hupTo : ∀ fuel, Spares r (Translation.repeatUpTo separator item fuel) := by
    intro fuel
    induction fuel with
    | zero => exact pure []
    | succ fuel ih =>
      refine hseparator.bind fun a? => ?_
      cases a? with
      | none => exact pure []
      | some a => exact (hitem a).bind fun b => ih.map _
  exact fun input => hupTo input.length input

theorem commaSeparated (hc : Spares r c) : Spares r (Translation.commaSeparated c) :=
  hc.bind fun _ => (repeatAfter (accept rfl) fun _ => hc).map _

theorem parenthesized (hc : Spares r c) : Spares r (Translation.parenthesized c) :=
  (require rfl).bind fun _ => hc.bind fun _ => (require rfl).map _

theorem listed (hc : Spares r c) : Spares r (Translation.parenthesized (Translation.commaSeparated c)) :=
  hc.commaSeparated.parenthesized

theorem nested {inner? : Option (Translation α)} (h : ∀ inner, inner? = some inner → Spares r inner)
    (opener : SourceToken) : Spares r (Translation.nested inner? opener) := by
  cases inner? with
  | none => exact fail _
  | some inner => exact h inner rfl

end Spares

namespace SparesAt

variable {l : Lexeme}

theorem next_bind (hl : l.token.isReservable = false) {f : SourceToken → Translation β} (hf : ∀ token, Spares r (f token))
    {expected : String} : SparesAt r l (read (Phrase.next expected) >>= f) := by
  refine fun input _ _ => absent_bind (fun token rest h => ?_) hf
  cases h
  exact ⟨[l], rfl, List.forall_mem_singleton.mpr (r.free hl)⟩

theorem map {c : Translation α} (h : SparesAt r l c) (g : α → β) : SparesAt r l (c >>= fun a => Pure.pure (g a)) :=
  fun input _ _ => absent_bind (h input) fun a => .pure (g a)

end SparesAt

theorem isReservable_of_keyword {token : Token} {keyword : Keyword} (h : token.keyword? = some keyword) :
    token.isReservable = false := by
  cases token <;> first | rfl | cases h

theorem isReservable_of_comparisonOperator {dialect : Dialect} {token : Token} {op : ComparisonOp}
    (h : Grammar.comparisonOperator? dialect token = some op) : token.isReservable = false := by
  cases token with
  | sign sign => cases sign <;> first | rfl | cases h
  | _ => rfl

variable {u : Setting}

/-! ### Numbers -/

theorem spares_signed : Spares r (read Grammar.signed) := by
  rw [Grammar.signed, read_phrase_bind]
  refine (Spares.accept rfl).bind fun _ => ?_
  rw [read_phrase_bind]
  refine (Spares.expectIf (fun token htoken => r.free ?_) _).map _
  cases token <;> first | rfl | cases htoken

theorem spares_sign (minus? : Option SourceToken) (token : SourceToken) (n : Number) :
    Spares r (Translation.sign u minus? token n) := by
  cases minus? with
  | none => exact .pure n
  | some minus => exact .complete u _ _ _

theorem spares_signedNumber (production : Production) : Spares r (Translation.signedNumber u production) :=
  spares_signed.bind fun _ => (Spares.complete u _ _ _).bind fun _ => (spares_sign _ _ _).map _

theorem spares_signedLiteral : Spares r (Translation.signedLiteral u) :=
  spares_signed.bind fun _ => (Spares.complete u _ _ _).bind fun _ => spares_sign _ _ _

/-! ### Names, codes and operators -/

theorem isReservable_of_isAnyWord (token : Token) (h : Grammar.isAnyWord token = true) : token.isReservable = false := by
  cases token <;> first | rfl | cases h

theorem attributeNames_absent (current : SourceToken) (input : List Lexeme) :
    ∃ taken, input = taken ++ (Grammar.attributeNames current input).2 ∧ r.Absent taken := by
  have hname : ∀ {sign : Sign} {text quote place place' taken}, (Token.sign sign).isReservable = false →
      r.Absent taken → r.Absent (⟨.sign sign, place⟩ :: ⟨.word text quote, place'⟩ :: taken) :=
    fun hsign htaken => List.forall_mem_cons.mpr ⟨r.free hsign, List.forall_mem_cons.mpr ⟨r.free rfl, htaken⟩⟩
  fun_induction Grammar.attributeNames current input
  case case1 hread ih =>
    obtain ⟨taken, hrest, htaken⟩ := ih
    rw [hread] at hrest
    exact ⟨_ :: _ :: taken, congrArg (_ :: _ :: ·) hrest, hname rfl htaken⟩
  case case2 ih =>
    obtain ⟨taken, hrest, htaken⟩ := ih
    exact ⟨_ :: _ :: taken, congrArg (_ :: _ :: ·) hrest, hname rfl htaken⟩
  case case3 => exact ⟨[], rfl, List.forall_mem_nil _⟩

theorem spares_attributeTail (first : SourceToken) : Spares r (read (Translation.attributeTail first)) := by
  intro input names rest h
  obtain ⟨_, rfl⟩ := Prod.mk.inj (Except.ok.inj h)
  exact attributeNames_absent first input

theorem spares_propertyName : Spares r (Translation.propertyName u) :=
  (Spares.expectIf (fun token htoken => r.free (isReservable_of_isAnyWord token htoken)) _).bind fun first =>
    (spares_attributeTail first).bind fun _ => .complete u _ _ _

theorem leadingWords_absent (input : List Lexeme) :
    ∃ taken, input = taken ++ (Grammar.leadingWords input).2 ∧ r.Absent taken := by
  induction input with
  | nil => exact ⟨[], rfl, nofun⟩
  | cons l input ih =>
    rw [Grammar.leadingWords]
    by_cases hword : Grammar.isAnyWord l.token = true
    · obtain ⟨taken, hrest, htaken⟩ := ih
      rw [if_pos hword]
      exact ⟨l :: taken, congrArg (l :: ·) hrest, List.forall_mem_cons.mpr
        ⟨r.free (isReservable_of_isAnyWord _ hword), htaken⟩⟩
    · rw [if_neg hword]
      exact ⟨[], rfl, nofun⟩

theorem spares_unitWords : Spares r (read Grammar.unitWords) := by
  rintro (_ | ⟨l, input⟩) words rest h
  · cases h
  · have hsuffix := leadingWords_absent (r := r) (l :: input)
    rwa [(unitWords_eq_ok h).2] at hsuffix

theorem spares_referenceSystem : Spares r (read Grammar.referenceSystem?) := by
  rw [Grammar.referenceSystem?, read_phrase_bind]
  refine (Spares.accept rfl).bind fun comma? => ?_
  cases comma? with
  | none => exact .pure []
  | some comma =>
    dsimp only
    rw [read_phrase_bind]
    refine (Spares.expectIf (fun token htoken => r.free ?_) _).map _
    cases token <;> first | rfl | cases htoken

theorem spares_acceptOperator {first second : Sign × ArithmeticOp} (hfirst : (Token.sign first.1).isReservable = false)
    (hsecond : (Token.sign second.1).isReservable = false) : Spares r (read (Grammar.acceptOperator first second)) := by
  rw [Grammar.acceptOperator, read_phrase_bind]
  refine (Spares.accept hfirst).bind fun token? => ?_
  cases token? with
  | some token => exact .pure _
  | none =>
    dsimp only
    rw [read_phrase_bind]
    exact (Spares.accept hsecond).map _

/-! ### Patterns of the nine-intersection model -/

theorem toList_spelling_subset {token : Token} {tokens : List Token} (h : token ∈ tokens) :
    token.spelling.toList ⊆ (spelled tokens).toList := by
  induction tokens with
  | nil => cases h
  | cons t tokens ih =>
    have happend : (spelled (t :: tokens)).toList = t.spelling.toList ++ (spelled tokens).toList :=
      String.toList_append
    rw [happend]
    rcases List.mem_cons.mp h with rfl | h
    · exact List.subset_append_left _ _
    · exact List.Subset.trans (ih h) (List.subset_append_right _ _)

theorem isReservable_of_isDe9im {token : Token} {tokens : List Token} (h : token ∈ tokens)
    (hpattern : Assembly.isDe9im (spelled tokens) = true) : token.isReservable = false := by
  have hletters : ∀ c ∈ token.spelling.toList, ['T', 'F', '*', '0', '1', '2'].contains c.toUpper = true := by
    intro c hc
    rw [Assembly.isDe9im, Bool.and_eq_true, List.all_eq_true] at hpattern
    exact hpattern.2 c (toList_spelling_subset h hc)
  cases token with
  | sign sign =>
    cases sign with
    | leftBracket => exact absurd (hletters '[' (by decide)) (by decide)
    | rightBracket => exact absurd (hletters ']' (by decide)) (by decide)
    | semicolon => exact absurd (hletters ';' (by decide)) (by decide)
    | _ => rfl
  | _ => rfl

/-- The lexemes of a pattern, which is between quotes or all that is spelled up to a comma or a parenthesis. -/
theorem de9imPattern_absent {input rest : List Lexeme} {pattern : SourceToken}
    (h : read Grammar.de9imPattern input = .ok (pattern, rest)) (hpattern : Assembly.isDe9im pattern.text = true) :
    ∃ taken, input = taken ++ rest ∧ r.Absent taken := by
  rw [de9imPattern_eq, read_phrase_bind] at h
  rcases input with _ | ⟨l, input⟩
  · cases h
  by_cases hquoted : Grammar.isQuotedPattern l.token = true
  · rw [bind_of_ok (read_acceptIf_of_pos hquoted input)] at h
    obtain ⟨_, rfl⟩ := Prod.mk.inj (Except.ok.inj h)
    have hl : r.sort l.token = false := r.free <| by
      revert hquoted
      cases l.token <;> first | exact fun _ => rfl | exact nofun
    exact ⟨[l], rfl, List.forall_mem_singleton.mpr hl⟩
  · rw [bind_of_ok (read_acceptIf_of_neg hquoted input)] at h
    dsimp only at h
    rw [read_phrase_bind] at h
    obtain ⟨start, mid, hstart, h⟩ := bind_eq_ok h
    cases hstart
    obtain ⟨text, hread, _, rfl⟩ := barePatternAt_eq_ok (read_eq_ok h)
    rcases barePattern_cases none (l :: input) with ⟨token, herror⟩ | hcases
    · cases herror.symm.trans hread
    · obtain ⟨rfl, rfl⟩ := Prod.mk.inj (Except.ok.inj (hread.symm.trans hcases))
      refine ⟨_, (List.takeWhile_append_dropWhile).symm, fun x hx => r.free (isReservable_of_isDe9im ?_ hpattern)⟩
      rw [tokensOf, List.takeWhile_map]
      exact List.mem_map_of_mem hx

/-- A pattern takes none of the signs if nothing is made of it before it is checked. -/
theorem spares_de9imPattern_bind {f : SourceToken → Translation β} (hf : ∀ pattern, Spares r (f pattern))
    (hchecks : ∀ pattern input b rest, f pattern input = .ok (b, rest) → Assembly.isDe9im pattern.text = true) :
    Spares r (read Grammar.de9imPattern >>= f) := by
  intro input b rest h
  obtain ⟨pattern, mid, hpattern, hb⟩ := bind_eq_ok h
  obtain ⟨front, rfl, hfront⟩ := de9imPattern_absent hpattern (hchecks _ _ _ _ hb)
  obtain ⟨behind, rfl, hbehind⟩ := hf _ _ _ _ hb
  exact ⟨front ++ behind, (List.append_assoc _ _ _).symm, hfront.append hbehind⟩

theorem isDe9im_of_de9imOf {pattern : SourceToken} {a : Unit} (h : de9imOf pattern = .ok a) :
    Assembly.isDe9im pattern.text = true := by
  unfold de9imOf at h
  split at h
  · assumption
  · cases h

end GeoFilter
