import GeoFilter.Proofs.Nesting
import GeoFilter.Proofs.Yield.Predicate

/-!
# Siblings

Predicates with AND and OR between them, and arguments with commas between them, all have the levels that each of them
has alone: a level is left where it is closed.
-/

namespace GeoFilter

open Translation (read bind_of_ok bind_eq_ok read_of_ok repeatAfter repeatUpTo nextPredicate)

/-! ### Pieces -/

/-- Whether a translation makes something of some lexemes up to their end. -/
def Accepts (c : Translation α) (lexemes : List Lexeme) : Prop :=
  ∃ a, c lexemes = .ok (a, [])

theorem accepts_of_snd {c : Translation α} {lexemes : List Lexeme}
    (h : (c lexemes).toOption.map Prod.snd = some []) : Accepts c lexemes := by
  cases hread : c lexemes with
  | error stop =>
    rw [hread] at h
    cases h
  | ok x =>
    obtain ⟨a, rest⟩ := x
    rw [hread] at h
    cases h
    exact ⟨a, hread⟩

/-- Lexemes that are one or more pieces with tokens of some sort between them. -/
inductive Joins (between : Token → Bool) (piece : List Lexeme → Prop) : List Lexeme → Prop
  | single {part : List Lexeme} (h : piece part) : Joins between piece part
  | cons {part : List Lexeme} {l : Lexeme} {rest : List Lexeme} (h : piece part) (hl : between l.token = true)
      (hrest : Joins between piece rest) : Joins between piece (part ++ l :: rest)

/-- Lexemes with a separator in front. -/
structure Sibling where
  separator : Lexeme
  lexemes : List Lexeme

def withSiblings (first : List Lexeme) (others : List Sibling) : List Lexeme :=
  first ++ others.flatMap fun s => s.separator :: s.lexemes

theorem withSiblings_nil (first : List Lexeme) : withSiblings first [] = first := by
  rw [withSiblings, List.flatMap_nil, List.append_nil]

theorem withSiblings_cons (first : List Lexeme) (s : Sibling) (others : List Sibling) :
    withSiblings first (s :: others) = withSiblings (first ++ s.separator :: s.lexemes) others := by
  rw [withSiblings, List.flatMap_cons, ← List.append_assoc, withSiblings]

section Joins

variable {between : Token → Bool} {piece : List Lexeme → Prop} {front back : List Lexeme} {l : Lexeme}

theorem Joins.append (h : Joins between piece front) (hl : between l.token = true) (h' : Joins between piece back) :
    Joins between piece (front ++ l :: back) := by
  induction h with
  | single h => exact .cons h hl h'
  | cons h hl' _ ih =>
    rw [List.append_assoc, List.cons_append]
    exact .cons h hl' ih

theorem Joins.head (h : Joins between piece front) : ∃ part more, front = part ++ more ∧ piece part := by
  cases h with
  | single h => exact ⟨front, [], (List.append_nil front).symm, h⟩
  | cons h _ _ => exact ⟨_, _, rfl, h⟩

theorem Joins.mono {piece' : List Lexeme → Prop} (h : Joins between piece front)
    (hpiece : ∀ part, piece part → piece' part) : Joins between piece' front := by
  induction h with
  | single h => exact .single (hpiece _ h)
  | cons h hl _ ih => exact .cons (hpiece _ h) hl ih

/-- Two rows of joined pieces, of which the last one of the first and the first one of the second are joined. -/
theorem Joins.append_inside {between' : Token → Bool} (h : Joins between' (Joins between piece) front)
    (hl : between l.token = true) (h' : Joins between' (Joins between piece) back) :
    Joins between' (Joins between piece) (front ++ l :: back) := by
  induction h with
  | single h =>
    cases h' with
    | single h' => exact .single (h.append hl h')
    | cons h' hl' hrest =>
      rw [← List.cons_append, ← List.append_assoc]
      exact .cons (h.append hl h') hl' hrest
  | cons h hl' _ ih =>
    rw [List.append_assoc, List.cons_append]
    exact .cons h hl' ih

theorem joins_withSiblings {first : List Lexeme} (hfirst : piece first) {others : List Sibling}
    (hothers : ∀ s ∈ others, between s.separator.token = true ∧ piece s.lexemes) :
    Joins between piece (withSiblings first others) := by
  induction others generalizing first with
  | nil =>
    rw [withSiblings_nil]
    exact .single hfirst
  | cons s others ih =>
    obtain ⟨hl, hpiece⟩ := hothers s List.mem_cons_self
    exact .cons hfirst hl (ih hpiece fun t ht => hothers t (List.mem_cons_of_mem _ ht))

end Joins

theorem Token.not_and_of_or (token : Token) (h : token.isWord "OR" = true) : token.isWord "AND" = false := by
  cases token with
  | word text quote =>
    cases quote with
    | some _ => rfl
    | none =>
      have hor : text.toList.map Char.toLower = "OR".toList.map Char.toLower := beq_iff_eq.mp h
      show (text.toList.map Char.toLower == "AND".toList.map Char.toLower) = false
      rw [hor]
      rfl
  | _ => rfl

/-! ### Repetitions -/

section Repetition

variable {sort between : Token → Bool} {item : Translation α} {next : SourceToken → Translation β}
  (hitem : Solid sort item item) (hsort : ∀ token, between token = true → sort token = true)
  (hnext : ∀ token input rest, (∃ b, next token input = .ok (b, rest)) ↔ ∃ a, item input = .ok (a, rest))

def Continues (between : Token → Bool) (piece : List Lexeme → Prop) (lexemes : List Lexeme) : Prop :=
  lexemes = [] ∨ ∃ l rest, lexemes = l :: rest ∧ between l.token = true ∧ Joins between piece rest

include hitem hsort

/-- A piece that ends before others is a piece alone, and the others are joined to it. -/
theorem joins_of_continues {input mid : List Lexeme} {a : α} (ha : item input = .ok (a, mid))
    (hmid : Continues between (Accepts item) mid) : Joins between (Accepts item) input := by
  rcases hmid with rfl | ⟨l, rest, rfl, hl, hrest⟩
  · exact .single ⟨a, ha⟩
  · obtain ⟨part, rfl⟩ := hitem.suffix _ _ _ ha
    have halone := hitem.frame part _ [] a (.ends (ends_cons (hsort _ hl) rest) ends_nil) ha
    rw [List.append_nil] at halone
    exact .cons ⟨a, halone⟩ hl hrest

theorem continues_of_joins {input : List Lexeme} (h : Joins between (Accepts item) input) :
    ∃ a mid, item input = .ok (a, mid) ∧ Continues between (Accepts item) mid ∧ mid.length < input.length := by
  have hshorter : ∀ {input a mid}, item input = .ok (a, mid) → mid.length < input.length := by
    intro input a mid ha
    rcases Nat.lt_or_eq_of_le (hitem.suffix _ _ _ ha).length_le with hlt | heq
    · exact hlt
    · obtain rfl := (hitem.suffix _ _ _ ha).eq_of_length heq
      exact absurd ha (hitem.takes _ a)
  cases h with
  | single h =>
    obtain ⟨a, ha⟩ := h
    exact ⟨a, [], ha, .inl rfl, hshorter ha⟩
  | @cons part l rest h hl hrest =>
    obtain ⟨a, ha⟩ := h
    rw [← List.append_nil part] at ha
    have hframe := hitem.frame part [] _ a (.ends ends_nil (ends_cons (hsort _ hl) rest)) ha
    exact ⟨a, l :: rest, hframe, .inr ⟨l, rest, rfl, hl, hrest⟩, hshorter hframe⟩

include hnext

/-- A repetition goes up to the end where pieces with separators in front are all that is left. -/
theorem repeatUpTo_iff_continues {fuel : Nat} {input : List Lexeme} (hfuel : input.length ≤ fuel) :
    Accepts (repeatUpTo (Phrase.acceptIf between) next fuel) input ↔ Continues between (Accepts item) input := by
  induction fuel generalizing input with
  | zero =>
    obtain rfl := List.eq_nil_of_length_eq_zero (Nat.le_zero.mp hfuel)
    exact iff_of_true ⟨[], rfl⟩ (.inl rfl)
  | succ fuel ih =>
    rcases input with _ | ⟨l, input⟩
    · exact iff_of_true ⟨[], rfl⟩ (.inl rfl)
    rw [List.length_cons] at hfuel
    by_cases hl : between l.token = true
    · have hstep : repeatUpTo (Phrase.acceptIf between) next (fuel + 1) (l :: input) =
          (next l.source >>= fun b => repeatUpTo (Phrase.acceptIf between) next fuel >>= fun bs =>
            Pure.pure (b :: bs) : Translation (List β)) input := bind_of_ok (read_acceptIf_of_pos hl input)
      constructor
      · rintro ⟨bs, h⟩
        rw [hstep] at h
        obtain ⟨b, mid, hb, h⟩ := bind_eq_ok h
        obtain ⟨bs', mid', hbs, h⟩ := bind_eq_ok h
        cases h
        obtain ⟨a, ha⟩ := (hnext l.source input mid).mp ⟨b, hb⟩
        have hlength := (hitem.suffix _ _ _ ha).length_le
        have hmid := (ih (by omega)).mp ⟨bs', hbs⟩
        exact .inr ⟨l, input, rfl, hl, joins_of_continues hitem hsort ha hmid⟩
      · rintro (hnil | ⟨l', rest, heq, _, hjoins⟩)
        · cases hnil
        · cases heq
          obtain ⟨a, mid, ha, hmid, hlength⟩ := continues_of_joins hitem hsort hjoins
          obtain ⟨b, hb⟩ := (hnext l.source input mid).mpr ⟨a, ha⟩
          obtain ⟨bs, hbs⟩ := (ih (by omega)).mpr hmid
          refine ⟨b :: bs, ?_⟩
          rw [hstep, bind_of_ok hb, bind_of_ok hbs]
          rfl
    · refine iff_of_false ?_ ?_
      · rintro ⟨bs, h⟩
        rw [repeatUpTo_of_none (read_acceptIf_of_neg hl input)] at h
        cases h
      · rintro (hnil | ⟨l', rest, heq, hl', _⟩)
        · cases hnil
        · cases heq
          exact hl hl'

/-- A piece and the pieces of a repetition behind it are pieces that are joined. -/
theorem accepts_repetition_iff (g : α → List β → γ) (lexemes : List Lexeme) :
    Accepts (item >>= fun a => repeatAfter (Phrase.acceptIf between) next >>= fun bs => Pure.pure (g a bs)) lexemes ↔
      Joins between (Accepts item) lexemes := by
  constructor
  · rintro ⟨c, h⟩
    obtain ⟨a, mid, ha, h⟩ := bind_eq_ok h
    obtain ⟨bs, mid', hbs, h⟩ := bind_eq_ok h
    cases h
    exact joins_of_continues hitem hsort ha
      ((repeatUpTo_iff_continues hitem hsort hnext (Nat.le_refl _)).mp ⟨bs, hbs⟩)
  · intro h
    obtain ⟨a, mid, ha, hmid, _⟩ := continues_of_joins hitem hsort h
    obtain ⟨bs, hbs⟩ := (repeatUpTo_iff_continues hitem hsort hnext (Nat.le_refl _)).mpr hmid
    exact ⟨g a bs, (bind_of_ok ha).trans (bind_of_ok hbs)⟩

end Repetition

/-! ### Predicates -/

section Predicates

variable {u : Setting} (hpermits : ∀ r, u.permits r = true)

include hpermits

theorem accepts_joined_iff {sort : Token → Bool} {word : String}
    (hword : ∀ token : Token, token.isWord word = true → sort token = true) (production : Production)
    (combine : Predicate → Predicate → Predicate) {item : Translation Predicate} (hitem : Solid sort item item)
    (lexemes : List Lexeme) :
    Accepts (Translation.joined u word production combine item) lexemes ↔
      Joins (Token.isWord word) (Accepts item) lexemes := by
  refine accepts_repetition_iff hitem hword (fun token input rest => ?_) _ lexemes
  constructor
  · rintro ⟨p, h⟩
    obtain ⟨q, mid, hq, h⟩ := bind_eq_ok h
    obtain ⟨_, _, rfl⟩ := Translation.complete_eq_ok h
    exact ⟨q, hq⟩
  · rintro ⟨q, hq⟩
    exact ⟨q, (bind_of_ok hq).trans (Translation.complete_of_permits (hpermits _) q rest)⟩

theorem accepts_filter_iff (levels : Nat) (lexemes : List Lexeme) :
    Accepts (Translation.filter u levels) lexemes ↔
      Joins (Token.isWord "OR") (Joins (Token.isWord "AND") (Accepts (Translation.negation u levels))) lexemes := by
  have hnegation : Solid Token.endsOperand (Translation.negation u levels) (Translation.negation u levels) :=
    solid_negation (Nat.le_refl levels)
  have hconjunction : Accepts (Translation.joined u "AND" .and u.kit.factory.and (Translation.negation u levels)) =
      Joins (Token.isWord "AND") (Accepts (Translation.negation u levels)) := by
    funext part
    refine propext (accepts_joined_iff hpermits (fun token htoken => ?_) .and _ hnegation part)
    exact Token.endsOperand_of_isWord (List.mem_pair.mpr (.inl rfl)) htoken
  have hor : ∀ token : Token, token.isWord "OR" = true → token.endsOperand = true :=
    fun token htoken => Token.endsOperand_of_isWord (List.mem_pair.mpr (.inr rfl)) htoken
  have hitem : Solid (Token.isWord "OR") (Translation.negation u levels) (Translation.negation u levels) :=
    hnegation.mono hor
  have hsolid := solid_joined (u := u) Token.not_and_of_or .and u.kit.factory.and hitem
  rw [← hconjunction]
  exact accepts_joined_iff hpermits (fun _ htoken => htoken) .or _ hsolid lexemes

theorem accepts_filter_append {levels : Nat} {front back : List Lexeme} {l : Lexeme}
    (hfront : Accepts (Translation.filter u levels) front)
    (hl : l.token.isWord "AND" = true ∨ l.token.isWord "OR" = true)
    (hback : Accepts (Translation.filter u levels) back) :
    Accepts (Translation.filter u levels) (front ++ l :: back) := by
  rw [accepts_filter_iff hpermits] at hfront hback ⊢
  rcases hl with hl | hl
  · exact hfront.append_inside hl hback
  · exact hfront.append hl hback

/-- Any number of filters with AND and OR between them are a filter at the same level. -/
theorem accepts_filter_row {levels : Nat} {first : List Lexeme} (hfirst : Accepts (Translation.filter u levels) first)
    {others : List Sibling}
    (hothers : ∀ s ∈ others, (s.separator.token.isWord "AND" = true ∨ s.separator.token.isWord "OR" = true) ∧
      Accepts (Translation.filter u levels) s.lexemes) :
    Accepts (Translation.filter u levels) (withSiblings first others) := by
  induction others generalizing first with
  | nil => rwa [withSiblings_nil]
  | cons s others ih =>
    obtain ⟨hl, hs⟩ := hothers s List.mem_cons_self
    rw [withSiblings_cons]
    exact ih (accepts_filter_append hpermits hfirst hl hs) fun t ht => hothers t (List.mem_cons_of_mem _ ht)

end Predicates

/-! ### Arguments -/

section Arguments

variable {u : Setting} {levels : Nat}

theorem factor_rightParen {l : Lexeme} (hl : l.token = .sign .rightParen) (inner? : Option (Translation Expression))
    (rest : List Lexeme) :
    Translation.factor u levels inner? (l :: rest) = .error (.fault (.unexpected "an expression" l.source)) := by
  obtain ⟨_, place⟩ := l
  subst hl
  rfl

theorem not_accepts_rightParen {l : Lexeme} (hl : l.token = .sign .rightParen) (rest : List Lexeme) :
    ¬Accepts (Translation.expression u levels) (l :: rest) := by
  rintro ⟨x, h⟩
  rw [Translation.expression_eq] at h
  obtain ⟨product, mid, hproduct, _⟩ := bind_eq_ok h
  obtain ⟨operand, mid', hoperand, _⟩ := bind_eq_ok hproduct
  cases (factor_rightParen hl _ rest).symm.trans hoperand

theorem accepts_expression_of_factor {lexemes : List Lexeme}
    (h : Accepts (Translation.factor u levels (Translation.deeper u levels)) lexemes) :
    Accepts (Translation.expression u levels) lexemes := by
  obtain ⟨x, hx⟩ := h
  refine ⟨x, ?_⟩
  rw [Translation.expression_eq]
  exact (bind_of_ok ((bind_of_ok hx).trans rfl)).trans rfl

variable (hpermits : ∀ r, u.permits r = true)

include hpermits

theorem accepts_argument {part : List Lexeme} (h : Accepts (Translation.expression u levels) part) :
    Accepts (Translation.argument u (some (Translation.expression u levels))) part := by
  obtain ⟨x, hx⟩ := h
  rcases part with _ | ⟨l, part⟩
  · exact absurd hx ((solid_expression (Nat.le_refl levels)).eq_nil x [])
  · have hhere : read (Phrase.here "an expression") (l :: part) = .ok (l.source, l :: part) := rfl
    exact ⟨x, (bind_of_ok hhere).trans ((bind_of_ok hx).trans (Translation.complete_of_permits (hpermits _) x []))⟩

/-- Arguments with commas between them are read up to the parenthesis behind them. -/
theorem commaSeparated_arguments {inside : List Lexeme}
    (h : Joins (· == .sign .comma) (Accepts (Translation.expression u levels)) inside) {closing : Lexeme}
    (hclosing : closing.token = .sign .rightParen) (rest : List Lexeme) :
    ∃ xs, Translation.commaSeparated (Translation.argument u (some (Translation.expression u levels)))
      (inside ++ closing :: rest) = .ok (xs, closing :: rest) := by
  have hargument : Solid Token.endsOperand (Translation.argument u (some (Translation.expression u levels)))
      (Translation.argument u (some (Translation.expression u levels))) :=
    .here_bind fun _ => (solid_expression (Nat.le_refl levels)).bind fun _ => .complete u _ _ _
  have hends : ∀ {sign : Sign}, Token.endsOperand (.sign sign) = true →
      ∀ token : Token, (token == .sign sign) = true → token.endsOperand = true := by
    intro sign hsign token htoken
    rw [beq_iff_eq.mp htoken]
    exact hsign
  have haccepts : Accepts (Translation.commaSeparated (Translation.argument u (some (Translation.expression u levels))))
      inside :=
    (accepts_repetition_iff hargument (hends rfl) (fun _ _ _ => Iff.rfl) Prod.mk inside).mpr
      (h.mono fun _ => accepts_argument hpermits)
  obtain ⟨xs, hxs⟩ := haccepts
  rw [← List.append_nil inside] at hxs
  have hclosed : Solid (· == .sign .rightParen) (Translation.argument u (some (Translation.expression u levels)))
      (Translation.argument u (some (Translation.expression u levels))) := hargument.mono (hends rfl)
  have hsolid := hclosed.commaSeparated rfl
  refine ⟨xs, hsolid.frame inside [] _ xs (.ends ends_nil (ends_cons ?_ rest)) hxs⟩
  rw [hclosing]
  rfl

theorem accepts_functionCall {inside : List Lexeme}
    (h : inside = [] ∨ Joins (· == .sign .comma) (Accepts (Translation.expression u levels)) inside)
    (name : Lexeme) {opening closing : Lexeme} (hopening : opening.token = .sign .leftParen)
    (hclosing : closing.token = .sign .rightParen) :
    Accepts (Translation.functionCall u (some (Translation.expression u levels)))
      (name :: opening :: (inside ++ [closing])) := by
  obtain ⟨_, place⟩ := opening
  subst hopening
  have hstart : ∀ input, Translation.functionCall u (some (Translation.expression u levels))
      (name :: ⟨.sign .leftParen, place⟩ :: input) = _ := fun input =>
    (bind_of_ok (a := name.source) rfl).trans ((bind_of_ok (read_of_ok (require_sign .leftParen place input))).trans
      (bind_of_ok (Translation.complete_of_permits (hpermits _) () input)))
  rcases h with rfl | h
  · have hclose : read (Phrase.accept .rightParen) [closing] = .ok (some closing.source, []) :=
      read_acceptIf_of_pos (p := (· == .sign .rightParen)) (beq_iff_eq.mpr hclosing) []
    refine ⟨u.kit.factory.function name.source.text [], (hstart _).trans ((bind_of_ok hclose).trans ?_)⟩
    exact Translation.complete_of_permits (hpermits _) _ []
  · obtain ⟨l, more, rfl, hl⟩ : ∃ l more, inside = l :: more ∧ l.token ≠ .sign .rightParen := by
      obtain ⟨part, more, rfl, hpart⟩ := h.head
      rcases part with _ | ⟨l, part⟩
      · obtain ⟨x, hx⟩ := hpart
        exact absurd hx ((solid_expression (Nat.le_refl levels)).eq_nil x [])
      · exact ⟨l, part ++ more, rfl, fun hl => not_accepts_rightParen hl part hpart⟩
    have hkeep : read (Phrase.accept .rightParen) (l :: (more ++ [closing])) = .ok (none, l :: (more ++ [closing])) :=
      read_acceptIf_of_neg (fun hpos => hl (beq_iff_eq.mp hpos)) _
    obtain ⟨⟨x, xs⟩, hxs⟩ := commaSeparated_arguments hpermits h hclosing []
    have hrequire : read (Phrase.require .rightParen) [closing] = .ok ((), []) := by
      obtain ⟨_, place⟩ := closing
      subst hclosing
      exact read_of_ok (require_sign .rightParen place [])
    refine ⟨u.kit.factory.function name.source.text (x :: xs), (hstart _).trans ((bind_of_ok hkeep).trans ?_)⟩
    exact (bind_of_ok hxs).trans ((bind_of_ok hrequire).trans (Translation.complete_of_permits (hpermits _) _ []))

/-- A word in front of a parenthesis calls a function, unless it stands for something else. -/
theorem accepts_call {inside : List Lexeme}
    (h : inside = [] ∨ Joins (· == .sign .comma) (Accepts (Translation.expression u levels)) inside)
    {name : Lexeme} {text : String} {quote : Option Char} (hname : name.token = .word text quote)
    (hcallable : ∀ keyword ∈ name.token.keyword?, keyword.isCallable = true) {opening closing : Lexeme}
    (hopening : opening.token = .sign .leftParen) (hclosing : closing.token = .sign .rightParen) :
    Accepts (Translation.expression u (levels + 1)) (name :: opening :: (inside ++ [closing])) := by
  apply accepts_expression_of_factor
  obtain ⟨x, hcall⟩ := accepts_functionCall hpermits h name hopening hclosing
  obtain ⟨_, place⟩ := name
  obtain ⟨_, place'⟩ := opening
  subst hname hopening
  refine ⟨x, (bind_of_ok (a := some (.word text quote)) rfl).trans ((bind_of_ok (a := true) rfl).trans ?_)⟩
  change ∀ keyword ∈ (Token.word text quote).keyword?, keyword.isCallable = true at hcallable
  generalize (Token.word text quote).keyword? = keyword? at hcallable
  split
  case h_1 => exact absurd (hcallable _ rfl) (by decide)
  case h_2 => exact absurd (hcallable _ rfl) (by decide)
  case h_3 =>
    refine (bind_of_ok (a := some (.sign .leftParen)) rfl).trans ?_
    exact hcall
  case h_4 => exact absurd (hcallable _ rfl) (by decide)
  case h_5 => exact absurd (hcallable _ rfl) Bool.false_ne_true
  case h_6 => exact hcall

theorem operand_before_comparison {name : String} (hfree : Keyword.ofText? name = none) (place : Place) (op : ComparisonOp)
    (place' : Place) (rest : List Lexeme) :
    Translation.operand u levels (⟨.word name none, place⟩ :: ⟨.sign op.sign, place'⟩ :: rest) =
      .ok (u.kit.factory.property [name], ⟨.sign op.sign, place'⟩ :: rest) := by
  have hyields : Yields (Translation.operand u levels) [.word name none] EndsExpression
      (some (u.kit.factory.property [name])) := .operand_attribute hpermits hfree
  obtain ⟨mid, hread, hmid⟩ := hyields (⟨.word name none, place⟩ :: ⟨.sign op.sign, place'⟩ :: rest) _ rfl
    (Without.cons op.prolongs_sign _)
  -- what is left has the tokens of the lexemes behind the name, and so it is these lexemes
  have hsuffix := (solid_operand (u := u) (Nat.le_refl levels)).suffix _ _ _ hread
  have hlength : mid.length = rest.length + 1 := by simpa [tokensOf] using congrArg List.length hmid
  obtain rfl := (List.suffix_of_suffix_length_le hsuffix (List.suffix_cons _ _) hlength.le).eq_of_length hlength
  exact hread

theorem accepts_comparison {name : String} (hfree : Keyword.ofText? name = none) (place : Place) (op : ComparisonOp)
    (place' : Place) {right : List Lexeme} (hright : Accepts (Translation.expression u levels) right) :
    Accepts (Translation.filter u levels) (⟨.word name none, place⟩ :: ⟨.sign op.sign, place'⟩ :: right) := by
  obtain ⟨y, hy⟩ := hright
  refine ⟨u.kit.factory.compare op (u.kit.factory.property [name]) y, filter_of_negation ends_nil ?_⟩
  have hnot : ¬(Token.word name none).isWord "NOT" = true := by rw [Token.isWord_of_free hfree (by decide)]; decide
  have hclosing : Grammar.closingSign? u.dialect (.word name none) = none := by cases u.dialect <;> rfl
  have hkeyword : (Token.word name none).keyword? = none := hfree
  have hcalled : read Grammar.parenFollows (⟨.word name none, place⟩ :: ⟨.sign op.sign, place'⟩ :: right) =
      .ok (false, ⟨.word name none, place⟩ :: ⟨.sign op.sign, place'⟩ :: right) := by
    cases op <;> rfl
  have hop : Grammar.comparisonOperator? u.dialect (.sign op.sign) = some op := op.signOperator_sign
  rw [Translation.negation_eq]
  refine (bind_of_ok (read_acceptIf_of_neg hnot _)).trans ?_
  refine (bind_of_ok (a := some (.word name none)) rfl).trans ?_
  dsimp only
  rw [hclosing]
  refine (bind_of_ok hcalled).trans ?_
  rw [hkeyword]
  refine (bind_of_ok (operand_before_comparison hpermits hfree place op place' right)).trans ?_
  refine (bind_of_ok (a := some (.sign op.sign)) rfl).trans ?_
  dsimp only
  rw [hop]
  refine (bind_of_ok (a := ⟨op.sign.spelling, place'⟩) rfl).trans ((bind_of_ok hy).trans ?_)
  exact Translation.complete_of_permits (hpermits _) _ []

end Arguments

end GeoFilter
