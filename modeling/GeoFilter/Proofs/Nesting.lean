import GeoFilter.Proofs.Derivation.Reading
import GeoFilter.Proofs.Framing.Filter
import Mathlib.Data.List.DropRight
import Mathlib.Logic.Function.Iterate

/-!
# Openers in front of filters

NOT and the signs that open groups take one level of nesting each.  One opener more than there are levels is a fault,
whatever stands behind it.  With enough levels, a filter between openers and the signs that close them is read as it is
alone; a group is read up to its end, while NOT negates no more than the first predicate behind it.
-/

namespace GeoFilter

open Translation (read bind_of_ok bind_eq_ok bind_of_error read_of_ok repeatAfter nextPredicate)

/-! ### Openers -/

namespace Lexeme

def isNot (l : Lexeme) : Bool := l.token.isWord "NOT"

/-- The sign that closes the group which a lexeme opens, if it opens one. -/
def closing? (dialect : Dialect) (l : Lexeme) : Option Sign := Grammar.closingSign? dialect l.token

/-- Whether a lexeme opens a level in front of a filter. -/
def opens (dialect : Dialect) (l : Lexeme) : Bool := l.isNot || (l.closing? dialect).isSome

variable {dialect : Dialect} {l : Lexeme}

theorem isNot_of_closing {closing : Sign} (h : l.closing? dialect = some closing) : l.isNot = false := by
  obtain ⟨token, place⟩ := l
  cases token with
  | sign sign => rfl
  | _ => cases dialect <;> cases h

theorem closing_of_isNot (h : l.isNot = true) : l.closing? dialect = none := by
  cases hclosing : l.closing? dialect with
  | none => rfl
  | some closing => cases (isNot_of_closing hclosing).symm.trans h

theorem opens_cases (h : l.opens dialect = true) : l.isNot = true ∨ ∃ closing, l.closing? dialect = some closing :=
  ((Bool.or_eq_true _ _).mp h).imp_right Option.isSome_iff_exists.mp

theorem endsFilter_of_closes {closing : Sign} (h : l.closing? dialect = some closing) :
    Token.endsFilter (.sign closing) = true := by
  unfold closing? Grammar.closingSign? at h
  split at h <;> cases h <;> rfl

end Lexeme

/-- The signs that close what some openers open, the last one first. -/
def closingTokens (dialect : Dialect) (openers : List Lexeme) : List Token :=
  openers.reverse.filterMap fun l => (l.closing? dialect).map Token.sign

section Closers

variable {dialect : Dialect} {l : Lexeme}

theorem closingTokens_cons_not (hl : l.isNot = true) (openers : List Lexeme) :
    closingTokens dialect (l :: openers) = closingTokens dialect openers := by
  rw [closingTokens, List.reverse_cons, List.filterMap_append, List.filterMap_cons, Lexeme.closing_of_isNot hl]
  exact List.append_nil _

theorem closingTokens_cons_group {closing : Sign} (hl : l.closing? dialect = some closing) (openers : List Lexeme) :
    closingTokens dialect (l :: openers) = closingTokens dialect openers ++ [.sign closing] := by
  rw [closingTokens, List.reverse_cons, List.filterMap_append, List.filterMap_cons, hl]
  rfl

theorem closingTokens_append_nots {inner : List Lexeme} (hinner : ∀ l ∈ inner, l.isNot = true) (outer : List Lexeme) :
    closingTokens dialect (outer ++ inner) = closingTokens dialect outer := by
  have hnone : (inner.reverse.filterMap fun l => (l.closing? dialect).map Token.sign) = [] := by
    rw [List.filterMap_eq_nil_iff]
    intro l hl
    rw [Lexeme.closing_of_isNot (hinner l (List.mem_reverse.mp hl))]
    rfl
  rw [closingTokens, List.reverse_append, List.filterMap_append, hnone]
  rfl

theorem tokensOf_eq_concat {input : List Lexeme} {token : Token} {r : List Token}
    (h : tokensOf input = r ++ [token]) :
    ∃ front last, input = front ++ [last] ∧ tokensOf front = r ∧ last.token = token := by
  obtain ⟨front, ends, rfl, hfront, hends⟩ := List.map_eq_append_iff.mp h
  obtain ⟨last, rfl, hlast⟩ := List.map_eq_singleton_iff.mp hends
  exact ⟨front, last, rfl, hfront, hlast⟩

end Closers

variable {u : Setting} {l : Lexeme} {levels m n : Nat} {p q : Predicate} {input rest : List Lexeme}

/-! ### One opener -/

theorem negation_not (hl : l.isNot = true) :
    Translation.negation u levels (l :: input) =
      (Translation.nested (Translation.deeperNegation u levels) l.source >>= fun p =>
        Translation.complete u .not [l.source] (.ok (u.kit.factory.not p))) input := by
  rw [Translation.negation_eq]
  exact bind_of_ok (read_acceptIf_of_pos hl input)

theorem negation_group {closing : Sign} (hl : l.closing? u.dialect = some closing) :
    Translation.negation u levels (l :: input) =
      (Translation.nested ((Translation.deeperNegation u levels).map (Translation.disjunctionOf u)) l.source >>= fun p =>
        read (Phrase.require closing) >>= fun _ => Pure.pure p) input := by
  have hnot : ¬l.token.isWord "NOT" = true := ne_true_of_eq_false (Lexeme.isNot_of_closing hl)
  have hclosing : Grammar.closingSign? u.dialect l.token = some closing := hl
  rw [Translation.negation_eq]
  refine (bind_of_ok (read_acceptIf_of_neg hnot input)).trans ?_
  show (Translation.primary u levels _) (l :: input) = _
  refine (bind_of_ok (a := some l.token) rfl).trans ?_
  dsimp only
  rw [hclosing]
  exact bind_of_ok rfl

theorem negation_zero (hl : l.opens u.dialect = true) :
    Translation.negation u 0 (l :: input) = .error (.fault (.tooDeep l.source)) := by
  rcases Lexeme.opens_cases hl with hnot | ⟨closing, hclosing⟩
  · rw [negation_not hnot]
    exact bind_of_error rfl
  · rw [negation_group hclosing]
    exact bind_of_error rfl

theorem filter_of_error {stop : Stop} (h : Translation.negation u levels input = .error stop) :
    Translation.filter u levels input = .error stop :=
  bind_of_error (bind_of_error h)

theorem negation_succ_of_error (hl : l.opens u.dialect = true) {stop : Stop}
    (h : Translation.negation u levels input = .error stop) :
    Translation.negation u (levels + 1) (l :: input) = .error stop := by
  rcases Lexeme.opens_cases hl with hnot | ⟨closing, hclosing⟩
  · rw [negation_not hnot]
    exact bind_of_error h
  · rw [negation_group hclosing]
    exact bind_of_error (filter_of_error h)

theorem negation_succ_not (hpermits : ∀ r, u.permits r = true) (hl : l.isNot = true)
    (h : Translation.negation u levels input = .ok (p, rest)) :
    Translation.negation u (levels + 1) (l :: input) = .ok (u.kit.factory.not p, rest) := by
  rw [negation_not hl]
  exact (bind_of_ok h).trans (Translation.complete_of_permits (hpermits _) _ rest)

theorem negation_succ_group {closing : Sign} (hl : l.closing? u.dialect = some closing) {c : Lexeme}
    (hc : c.token = .sign closing) (h : Translation.filter u levels input = .ok (p, c :: rest)) :
    Translation.negation u (levels + 1) (l :: input) = .ok (p, rest) := by
  obtain ⟨_, place⟩ := c
  subst hc
  rw [negation_group hl]
  exact (bind_of_ok h).trans (bind_of_ok (read_of_ok (require_sign closing place rest)))

/-! ### Too many openers -/

/-- The opener for which no level is left is the fault, whatever stands behind it. -/
theorem negation_tooDeep {openers : List Lexeme} (hopeners : ∀ o ∈ openers, o.opens u.dialect = true)
    (hl : openers[levels]? = some l) (rest : List Lexeme) :
    Translation.negation u levels (openers ++ rest) = .error (.fault (.tooDeep l.source)) := by
  induction levels generalizing openers with
  | zero =>
    obtain ⟨more, rfl⟩ : ∃ more, openers = l :: more := by
      rcases openers with _ | ⟨o, more⟩
      · cases hl
      · cases hl
        exact ⟨more, rfl⟩
    exact negation_zero (hopeners l List.mem_cons_self)
  | succ levels ih =>
    rcases openers with _ | ⟨o, more⟩
    · cases hl
    · exact negation_succ_of_error (hopeners o List.mem_cons_self)
        (ih (fun x hx => hopeners x (List.mem_cons_of_mem _ hx)) hl)

theorem filter_tooDeep {openers : List Lexeme} (hopeners : ∀ o ∈ openers, o.opens u.dialect = true)
    (hl : openers[levels]? = some l) (rest : List Lexeme) :
    Translation.filter u levels (openers ++ rest) = .error (.fault (.tooDeep l.source)) :=
  filter_of_error (negation_tooDeep hopeners hl rest)

/-! ### The first predicate of a filter -/

/-- What stands behind the first predicate of a filter: the predicates that AND connects with it, and the disjuncts
behind these. -/
structure FilterTail where
  conjuncts : List Predicate
  disjuncts : List Predicate

def FilterTail.attach (factory : TreeFactory) (tail : FilterTail) (first : Predicate) : Predicate :=
  tail.disjuncts.foldl factory.or (tail.conjuncts.foldl factory.and first)

def Translation.filterTail (u : Setting) (levels : Nat) : Translation FilterTail := do
  let conjuncts ← repeatAfter (Phrase.acceptWord "AND") (nextPredicate u .and (negation u levels))
  let disjuncts ← repeatAfter (Phrase.acceptWord "OR")
    (nextPredicate u .or (joined u "AND" .and u.kit.factory.and (negation u levels)))
  return ⟨conjuncts, disjuncts⟩

theorem Translation.filter_eq (u : Setting) (levels : Nat) :
    filter u levels = negation u levels >>= fun first =>
      filterTail u levels >>= fun tail => Pure.pure (tail.attach u.kit.factory first) := by
  unfold filter disjunctionOf filterTail
  rw [joined, joined]
  simp only [Translation.bind_assoc, Translation.pure_bind]
  rfl

theorem framed_filterTail (h : m ≤ n) :
    Framed Token.endsFilter (Translation.filterTail u m) (Translation.filterTail u n) := by
  have hnegation : Solid Token.endsFilter (Translation.negation u m) (Translation.negation u n) :=
    (solid_negation h).mono Token.endsOperand_of_endsFilter
  have hconjunction := solid_joined (u := u) (isWord_of_endsFilter "AND") .and u.kit.factory.and hnegation
  exact (Framed.repeatAfter (separates_acceptWord (isWord_of_endsFilter _)) fun _ =>
      hnegation.toFramed.bind fun _ => .complete u _ _ _).bind fun _ =>
    (Framed.repeatAfter (separates_acceptWord (isWord_of_endsFilter _)) fun _ =>
      hconjunction.toFramed.bind fun _ => .complete u _ _ _).map _

theorem Token.endsOperand_of_isWord {token : Token} {word : String} (hword : word ∈ ["AND", "OR"])
    (h : token.isWord word = true) : token.endsOperand = true := by
  cases token with
  | word text quote =>
    show (Token.isWord "AND" (.word text quote) || Token.isWord "OR" (.word text quote)) = true
    rcases List.mem_pair.mp hword with rfl | rfl
    · rw [h, Bool.true_or]
    · rw [h, Bool.or_true]
  | _ => cases h

theorem ends_of_filterTail {tail : FilterTail} (h : Translation.filterTail u levels input = .ok (tail, [])) :
    Ends Token.endsOperand input := by
  rintro l hl
  obtain ⟨rest, rfl⟩ := List.head?_eq_some_iff.mp hl
  by_contra hends
  have hkeep : ∀ word ∈ ["AND", "OR"], read (Phrase.acceptWord word) (l :: rest) = .ok (none, l :: rest) :=
    fun word hword => read_acceptIf_of_neg (fun hpos => hends (Token.endsOperand_of_isWord hword hpos)) rest
  obtain ⟨conjuncts, mid, hconjuncts, h⟩ := bind_eq_ok h
  rw [repeatAfter, repeatUpTo_of_none (hkeep "AND" (by decide))] at hconjuncts
  cases hconjuncts
  obtain ⟨disjuncts, mid, hdisjuncts, h⟩ := bind_eq_ok h
  rw [repeatAfter, repeatUpTo_of_none (hkeep "OR" (by decide))] at hdisjuncts
  cases hdisjuncts
  cases h

theorem first_of_filter {lexemes : List Lexeme} (h : Translation.filter u levels lexemes = .ok (p, [])) :
    ∃ first behind q tail, lexemes = first ++ behind ∧ Translation.negation u levels first = .ok (q, []) ∧
      Translation.filterTail u levels behind = .ok (tail, []) ∧ p = tail.attach u.kit.factory q := by
  rw [Translation.filter_eq] at h
  obtain ⟨q, behind, hq, h⟩ := bind_eq_ok h
  obtain ⟨tail, mid, htail, h⟩ := bind_eq_ok h
  cases h
  have hsolid : Solid Token.endsOperand (Translation.negation u levels) (Translation.negation u levels) :=
    solid_negation (Nat.le_refl levels)
  obtain ⟨first, rfl⟩ := hsolid.suffix _ _ _ hq
  have halone := hsolid.frame first behind [] q (.ends (ends_of_filterTail htail) ends_nil) hq
  rw [List.append_nil] at halone
  exact ⟨first, behind, q, tail, rfl, halone, htail, rfl⟩

theorem filter_of_first {tail : FilterTail} {behind : List Lexeme} (h : m ≤ n)
    (htail : Translation.filterTail u m behind = .ok (tail, [])) (hrest : Ends Token.endsFilter rest)
    (hq : Translation.negation u n input = .ok (q, behind ++ rest)) :
    Translation.filter u n input = .ok (tail.attach u.kit.factory q, rest) := by
  rw [← List.append_nil behind] at htail
  have htail' := (framed_filterTail h).frame behind [] rest tail (.ends ends_nil hrest) htail
  rw [Translation.filter_eq, bind_of_ok hq, bind_of_ok htail']
  rfl

theorem filter_of_negation (hrest : Ends Token.endsFilter rest)
    (h : Translation.negation u levels input = .ok (p, rest)) : Translation.filter u levels input = .ok (p, rest) :=
  have htail : Translation.filterTail u levels [] = .ok (⟨[], []⟩, []) := rfl
  filter_of_first (Nat.le_refl levels) htail hrest h

/-! ### Enclosed filters -/

/-- A filter that may be read with `m` levels or more, whatever it ends before. -/
def ReadsFilter (u : Setting) (m : Nat) (lexemes : List Lexeme) (p : Predicate) : Prop :=
  ∀ n rest, m ≤ n → Ends Token.endsFilter rest → Translation.filter u n (lexemes ++ rest) = .ok (p, rest)

variable (hpermits : ∀ r, u.permits r = true)

include hpermits

/-- Each NOT in front of a predicate takes a level and negates what is behind it. -/
theorem negation_nots (h : ∀ n, m ≤ n → Translation.negation u n input = .ok (q, rest)) {inner : List Lexeme}
    (hinner : ∀ l ∈ inner, l.isNot = true) (hlevels : inner.length + m ≤ n) :
    Translation.negation u n (inner ++ input) = .ok (u.kit.factory.not^[inner.length] q, rest) := by
  induction inner generalizing n with
  | nil => exact h n (by rwa [List.length_nil, Nat.zero_add] at hlevels)
  | cons l inner ih =>
    rw [List.length_cons] at hlevels ⊢
    obtain ⟨n, rfl⟩ := Nat.exists_eq_add_one_of_ne_zero (show n ≠ 0 by omega)
    have hread := ih (fun x hx => hinner x (List.mem_cons_of_mem _ hx)) (show inner.length + m ≤ n by omega)
    rw [Function.iterate_succ_apply']
    exact negation_succ_not hpermits (hinner l List.mem_cons_self) hread

theorem readsFilter_nots {first behind : List Lexeme} {tail : FilterTail}
    (hfirst : Translation.negation u m first = .ok (q, []))
    (htail : Translation.filterTail u m behind = .ok (tail, [])) {inner : List Lexeme}
    (hinner : ∀ l ∈ inner, l.isNot = true) :
    ReadsFilter u (inner.length + m) (inner ++ (first ++ behind))
      (tail.attach u.kit.factory (u.kit.factory.not^[inner.length] q)) := by
  intro n rest hlevels hrest
  -- the first predicate ends before AND, OR or what ends a filter
  have hends : Ends Token.endsOperand (behind ++ rest) := by
    rcases behind with _ | ⟨l, behind⟩
    · exact fun l hl => Token.endsOperand_of_endsFilter _ (hrest l hl)
    · exact ends_cons (ends_of_filterTail htail l rfl) _
  have hbefore : ∀ n, m ≤ n → Translation.negation u n (first ++ (behind ++ rest)) = .ok (q, behind ++ rest) := by
    intro n h
    rw [← List.append_nil first] at hfirst
    exact (solid_negation h).frame first [] _ q (.ends ends_nil hends) hfirst
  have hread := negation_nots hpermits hbefore hinner hlevels
  rw [← List.append_assoc first, ← List.append_assoc inner] at hread
  exact filter_of_first (Nat.le_trans (Nat.le_add_left m _) hlevels) htail hrest hread

/-- Openers of which the last one opens a group, and what closes them, are a predicate around a filter. -/
theorem negation_enclosed {lexemes : List Lexeme} (hbody : ReadsFilter u m lexemes p) {outer : List Lexeme}
    (hopeners : ∀ l ∈ outer, l.opens u.dialect = true) (hne : outer ≠ [])
    (hlast : ∀ l ∈ outer.getLast?, l.isNot = false) {closing : List Lexeme}
    (hclosing : tokensOf closing = closingTokens u.dialect outer) (hlevels : outer.length + m ≤ n) (rest : List Lexeme) :
    Translation.negation u n (outer ++ (lexemes ++ (closing ++ rest))) =
      .ok (u.kit.factory.not^[outer.countP Lexeme.isNot] p, rest) := by
  induction outer generalizing n closing rest with
  | nil => exact absurd rfl hne
  | cons l outer ih =>
    rw [List.length_cons] at hlevels
    obtain ⟨n, rfl⟩ := Nat.exists_eq_add_one_of_ne_zero (show n ≠ 0 by omega)
    have hmore : ∀ x ∈ outer, x.opens u.dialect = true := fun x hx => hopeners x (List.mem_cons_of_mem _ hx)
    have hlast' : outer ≠ [] → ∀ x ∈ outer.getLast?, x.isNot = false := by
      intro houter x hx
      refine hlast x ?_
      rw [List.getLast?_cons, Option.mem_def.mp hx]
      rfl
    rcases Lexeme.opens_cases (hopeners l List.mem_cons_self) with hnot | ⟨sign, hsign⟩
    · have houter : outer ≠ [] := by
        rintro rfl
        cases (hlast l rfl).symm.trans hnot
      rw [closingTokens_cons_not hnot] at hclosing
      rw [List.countP_cons_of_pos hnot, Function.iterate_succ_apply']
      exact negation_succ_not hpermits hnot (ih hmore houter (hlast' houter) hclosing (by omega) rest)
    · rw [closingTokens_cons_group hsign] at hclosing
      obtain ⟨inside, c, rfl, hinside, hc⟩ := tokensOf_eq_concat hclosing
      have hnot : ¬l.isNot = true := ne_true_of_eq_false (Lexeme.isNot_of_closing hsign)
      have hends : Ends Token.endsFilter (c :: rest) := ends_cons (hc ▸ Lexeme.endsFilter_of_closes hsign) rest
      rw [List.countP_cons_of_neg hnot, List.append_assoc, List.singleton_append]
      -- the filter inside of the group ends before the sign that closes it
      refine negation_succ_group hsign hc ?_
      by_cases houter : outer = []
      · subst houter
        obtain rfl := List.map_eq_nil_iff.mp hinside
        exact hbody n (c :: rest) (by omega) hends
      · exact filter_of_negation hends (ih hmore houter (hlast' houter) hinside (by omega) (c :: rest))

theorem filter_enclosed {lexemes : List Lexeme} (hbody : ReadsFilter u m lexemes p) {outer : List Lexeme}
    (hopeners : ∀ l ∈ outer, l.opens u.dialect = true) (hlast : ∀ l ∈ outer.getLast?, l.isNot = false)
    {closing : List Lexeme} (hclosing : tokensOf closing = closingTokens u.dialect outer) (hlevels : outer.length + m ≤ n) :
    Translation.filter u n (outer ++ (lexemes ++ closing)) =
      .ok (u.kit.factory.not^[outer.countP Lexeme.isNot] p, []) := by
  rw [← List.append_nil closing]
  by_cases hne : outer = []
  · subst hne
    obtain rfl := List.map_eq_nil_iff.mp hclosing
    exact hbody n [] (by rwa [List.length_nil, Nat.zero_add] at hlevels) ends_nil
  · exact filter_of_negation ends_nil (negation_enclosed hpermits hbody hopeners hne hlast hclosing hlevels [])

/-- Openers and what closes them around a filter: those NOT behind which no group opens negate its first predicate,
the others negate all of it. -/
theorem filter_wrapped {first behind : List Lexeme} {tail : FilterTail}
    (hfirst : Translation.negation u m first = .ok (q, []))
    (htail : Translation.filterTail u m behind = .ok (tail, [])) {openers closing : List Lexeme}
    (hopeners : ∀ l ∈ openers, l.opens u.dialect = true) (hlevels : openers.length + m ≤ n)
    (hclosing : tokensOf closing = closingTokens u.dialect openers) :
    Translation.filter u n (openers ++ (first ++ behind) ++ closing) =
      .ok (u.kit.factory.not^[(openers.rdropWhile Lexeme.isNot).countP Lexeme.isNot]
        (tail.attach u.kit.factory (u.kit.factory.not^[(openers.rtakeWhile Lexeme.isNot).length] q)), []) := by
  have happend := List.rdropWhile_append_rtakeWhile (p := Lexeme.isNot) (l := openers)
  have hinner : ∀ l ∈ openers.rtakeWhile Lexeme.isNot, l.isNot = true := fun l => List.mem_rtakeWhile_imp
  have hlast : ∀ l ∈ (openers.rdropWhile Lexeme.isNot).getLast?, l.isNot = false := by
    intro l hl
    obtain ⟨hne, rfl⟩ := List.mem_getLast?_eq_getLast hl
    exact eq_false_of_ne_true (List.rdropWhile_last_not Lexeme.isNot openers hne)
  generalize openers.rdropWhile Lexeme.isNot = outer at happend hlast ⊢
  generalize openers.rtakeWhile Lexeme.isNot = inner at happend hinner ⊢
  subst happend
  rw [closingTokens_append_nots hinner] at hclosing
  rw [List.length_append] at hlevels
  rw [List.append_assoc, List.append_assoc outer, ← List.append_assoc inner]
  exact filter_enclosed hpermits (readsFilter_nots hpermits hfirst htail hinner)
    (fun l hl => hopeners l (List.mem_append_left _ hl)) hlast hclosing (by omega)

end GeoFilter
