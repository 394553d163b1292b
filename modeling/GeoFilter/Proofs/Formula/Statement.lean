import GeoFilter.Proofs.Formula
import GeoFilter.Proofs.Keyword
import GeoFilter.Proofs.Yield.Statement

/-!
# Formulas as statements

A formula compiles to its predicate in both dialects.
-/

namespace GeoFilter

/-! ### Texts -/

namespace Formula

theorem forall_enclosedIf {P : Token → Prop} {enclosed : Prop} [Decidable enclosed] {ts : List Token}
    (hleft : P (.sign .leftParen)) (hright : P (.sign .rightParen)) (h : ∀ t ∈ ts, P t) :
    ∀ t ∈ enclosedIf enclosed ts, P t := by
  unfold enclosedIf
  split
  · exact List.forall_mem_cons.mpr ⟨hleft, List.forall_mem_append.mpr ⟨h, List.forall_mem_singleton.mpr hright⟩⟩
  · exact h

end Formula

open Scan in
theorem AttributeTest.spells_tokens (t : AttributeTest) :
    ∀ token ∈ t.tokens, Spells token.spelling.toList [token] (Ahead [' ']) := by
  have hends : ∀ rest, Ahead [' '] rest → EndsWord rest ∧ EndsNumber rest := by
    intro rest hrest
    refine ⟨fun c hc => ?_, fun c hc => ?_⟩
    · obtain rfl := List.mem_singleton.mp (hrest c hc)
      decide
    · obtain rfl := List.mem_singleton.mp (hrest c hc)
      decide
  have hword : Spells t.name.toList [.word t.name none] (Ahead [' ']) :=
    (Spells.word t.plain).mono fun rest hrest => (hends rest hrest).1
  have hnumber : Spells (Token.number t.integer.text t.integer.long).spelling.toList
      [.number t.integer.text t.integer.long] (Ahead [' ']) := by
    have hdigits : Spells (t.integer.text.toList ++ [] ++ [] ++ if t.integer.long then ['L'] else [])
        [.number (String.ofList (t.integer.text.toList ++ [] ++ [])) t.integer.long] EndsNumber :=
      .number t.integer.long t.integer.nonempty t.integer.digits (.inl rfl) (.inl rfl)
    rw [List.append_nil, List.append_nil, String.ofList_toList] at hdigits
    have hspelling : (Token.number t.integer.text t.integer.long).spelling.toList =
        t.integer.text.toList ++ if t.integer.long then ['L'] else [] := by
      rw [Token.spelling]
      split
      · exact String.toList_append
      · exact (List.append_nil _).symm
    rw [hspelling]
    exact hdigits.mono fun rest hrest => (hends rest hrest).2
  have hinteger : ∀ token ∈ t.integer.number.tokens, Spells token.spelling.toList [token] (Ahead [' ']) := by
    unfold SignedNumber.tokens
    split
    · exact List.forall_mem_cons.mpr ⟨.sign_blank .minus, List.forall_mem_singleton.mpr hnumber⟩
    · exact List.forall_mem_singleton.mpr hnumber
  exact List.forall_mem_cons.mpr ⟨hword, List.forall_mem_cons.mpr ⟨.sign_blank _, hinteger⟩⟩

open Scan in
theorem Formula.spells_tokens (f : Formula) :
    ∀ token ∈ f.tokens, Spells token.spelling.toList [token] (Ahead [' ']) := by
  have hconnective : ∀ word : String, IsPlainWord word.toList →
      Spells word.toList [.word word none] (Ahead [' ']) := by
    intro word hword
    refine (Spells.word hword).mono fun rest hrest c hc => ?_
    obtain rfl := List.mem_singleton.mp (hrest c hc)
    decide
  have hnot := hconnective "NOT" ⟨'N', ['O', 'T'], rfl, by decide, List.all_eq_true.mp rfl⟩
  have hand := hconnective "AND" ⟨'A', ['N', 'D'], rfl, by decide, List.all_eq_true.mp rfl⟩
  have hor := hconnective "OR" ⟨'O', ['R'], rfl, by decide, List.all_eq_true.mp rfl⟩
  have hleft : Spells Sign.leftParen.spelling.toList [.sign .leftParen] (Ahead [' ']) := .sign_blank _
  have hright : Spells Sign.rightParen.spelling.toList [.sign .rightParen] (Ahead [' ']) := .sign_blank _
  induction f with
  | atom t => exact t.spells_tokens
  | not f ih => exact List.forall_mem_cons.mpr ⟨hnot, forall_enclosedIf hleft hright ih⟩
  | and f g ihf ihg =>
    exact List.forall_mem_append.mpr ⟨forall_enclosedIf hleft hright ihf,
      List.forall_mem_cons.mpr ⟨hand, forall_enclosedIf hleft hright ihg⟩⟩
  | or f g ihf ihg => exact List.forall_mem_append.mpr ⟨ihf, List.forall_mem_cons.mpr ⟨hor, ihg⟩⟩

/-! ### Readings -/

abbrev EndsConjunction : List Token → Prop := Without fun token => token.prolongs || token.isWord "AND"

abbrev EndsFilter : List Token → Prop :=
  Without fun token => token.prolongs || token.isWord "AND" || token.isWord "OR"

section Reading

variable {u : Setting} (hu : u.IsPlain)

include hu

theorem yields_attributeTest (t : AttributeTest) (levels : Nat) :
    Yields (Translation.negation u levels) t.tokens EndsExpression (some t.predicate) := by
  have hleft : Yields (Translation.operand u levels) [.word t.name none] EndsExpression
      (some (u.kit.factory.property [t.name])) := .operand_attribute hu.permits t.free
  have hright : Yields (Translation.expression u levels) t.integer.number.tokens EndsExpression
      (some (.literal (.number t.integer.value))) :=
    .expression_of_factor (fun _ hr => hr) (.factor_number hu.permits t.integer.number)
  have hop : ∀ r, EndsExpression (.sign t.op.sign :: r) := Without.cons t.op.prolongs_sign
  have hcalled : ∀ r, EndsExpression r →
      ((.sign t.op.sign :: t.integer.number.tokens ++ r).head? == some (.sign .leftParen)) = false := by
    intro r _
    change (some (Token.sign t.op.sign) == _) = false
    cases t.op <;> rfl
  have htest := hleft.comparison hu.permits t.op hop hright
  have hkeyword : (Token.word t.name none).keyword? = none := t.free
  have hclosing : Grammar.closingSign? u.dialect (.word t.name none) = none := by cases u.dialect <;> rfl
  have hnegation := Yields.negation_simple (u := u) (Token.isWord_of_free t.free (by decide)) hclosing hcalled
    (by rw [hkeyword]; exact htest)
  rw [hu.factory] at hnegation
  exact hnegation

theorem yields_filter_of_negations {levels : Nat}
    (hnegation : ∀ f : Formula, f.partDepth 0 ≤ levels →
      Yields (Translation.negation u levels) (f.part 0) EndsExpression (some f.predicate))
    (f : Formula) (hdepth : f.depth ≤ levels) :
    Yields (Translation.filter u levels) f.tokens EndsFilter (some f.predicate) := by
  have hends : ∀ r, EndsConjunction r → EndsExpression r := fun r hr =>
    hr.mono fun token htoken => by rw [htoken, Bool.true_or]
  have hand : ∀ r, EndsConjunction r → Without (Token.isWord "AND") r := fun r hr =>
    hr.mono fun token htoken => by rw [htoken, Bool.or_true]
  have hconjunction : ∀ g ∈ f.disjuncts.toList,
      Yields (Translation.joined u "AND" .and u.kit.factory.and (Translation.negation u levels)) (g.part 1)
        EndsConjunction (some g.predicate) := by
    intro g hg
    have hlevels := Nat.le_trans (Formula.partDepth_disjunct g hg) hdepth
    have hparts : ∀ h ∈ g.conjuncts.toList,
        Yields (Translation.negation u levels) (h.part 0) EndsExpression (some h.predicate) :=
      fun h hh => hnegation h (Nat.le_trans (Formula.partDepth_conjunct h hh) hlevels)
    have hjoined : Yields (Translation.joined u "AND" .and Predicate.flatAnd (Translation.negation u levels))
        (g.conjuncts.joinedTokens (.word "AND" none) (Formula.part 0)) EndsConjunction
        (some (g.conjuncts.combined .flatAnd Formula.predicate)) :=
      .joined hu.permits rfl hparts (Without.cons rfl) hends hand
    rw [Formula.combined_conjuncts, ← Formula.part_conjuncts] at hjoined
    rw [hu.factory]
    exact hjoined
  have hends : ∀ r, EndsFilter r → EndsConjunction r := fun r hr =>
    hr.mono fun token htoken => by rw [htoken, Bool.true_or]
  have hor : ∀ r, EndsFilter r → Without (Token.isWord "OR") r := fun r hr =>
    hr.mono fun token htoken => by rw [htoken, Bool.or_true]
  have hjoined : Yields (Translation.joined u "OR" .or (fun p q => .flatOr [p, q])
        (Translation.joined u "AND" .and u.kit.factory.and (Translation.negation u levels)))
      (f.disjuncts.joinedTokens (.word "OR" none) (Formula.part 1)) EndsFilter
      (some (f.disjuncts.combined (fun p q => .flatOr [p, q]) Formula.predicate)) :=
    .joined hu.permits rfl hconjunction (Without.cons rfl) hends hor
  rw [Formula.combined_disjuncts, ← Formula.tokens_disjuncts] at hjoined
  have hfactory : u.kit.factory.or = fun p q => .flatOr [p, q] := by rw [hu.factory]; rfl
  rw [Translation.filter, Translation.disjunctionOf, hfactory]
  exact hjoined

/-- A part of a formula is read as a negation; where it is in parentheses, the filter inside is one level deeper. -/
theorem yields_negation (levels : Nat) (f : Formula) (hdepth : f.partDepth 0 ≤ levels) :
    Yields (Translation.negation u levels) (f.part 0) EndsExpression (some f.predicate) := by
  induction levels generalizing f with
  | zero =>
    cases f with
    | atom t => exact yields_attributeTest hu t 0
    | _ => exact absurd hdepth (Nat.not_succ_le_zero _)
  | succ levels ih =>
    have hgroup : ∀ g : Formula, g.depth ≤ levels →
        Yields (Translation.negation u (levels + 1)) (.sign .leftParen :: (g.tokens ++ [.sign .rightParen]))
          EndsExpression (some g.predicate) := by
      intro g hg
      have hfilter := yields_filter_of_negations hu ih g hg
      refine .negation_group (hfilter.mono fun r hr token htoken => ?_)
      obtain ⟨r', rfl⟩ : ∃ r', r = token :: r' := List.head?_eq_some_iff.mp htoken
      obtain ⟨sign, hsign, rfl⟩ := hr token r' rfl
      obtain rfl := List.mem_singleton.mp hsign
      rfl
    cases f with
    | atom t => exact yields_attributeTest hu t (levels + 1)
    | not f =>
      have hnot := Yields.negation_not hu.permits (ih f (Nat.le_of_succ_le_succ hdepth))
      rw [hu.factory] at hnot
      exact hnot
    | and f g => exact hgroup _ (Nat.le_of_succ_le_succ hdepth)
    | or f g => exact hgroup _ (Nat.le_of_succ_le_succ hdepth)

theorem yields_filter (levels : Nat) (f : Formula) (hdepth : f.depth ≤ levels) :
    Yields (Translation.filter u levels) f.tokens EndsFilter (some f.predicate) :=
  yields_filter_of_negations hu (yields_negation hu levels) f hdepth

end Reading

/-- **Boolean structure is compiled faithfully.**  In both dialects, a formula with at most as many NOT and
parentheses open as a statement may nest compiles, however its tokens are spaced, and the compiled predicate is
evaluated to the truth of the formula on every feature.  The text of the formula is one that has its tokens. -/
theorem formula_compiled [RegexLibrary] (dialect : Dialect) (resolver : CrsResolver) (f : Formula)
    (hdepth : f.depth ≤ maxNesting) :
    (∃ lexemes, scan f.text = .ok lexemes ∧ tokensOf lexemes = f.tokens) ∧
      ∀ statement lexemes, scan statement = .ok lexemes → tokensOf lexemes = f.tokens →
        ∃ p, ((⟨dialect, ⟨.plain, resolver⟩⟩ : Compiler).compileFilter statement).result = .ok p ∧
          ∀ feature, p.evaluate feature = .ok (f.truth (AttributeTest.holds feature)) := by
  let compiler : Compiler := ⟨dialect, ⟨.plain, resolver⟩⟩
  have hu : compiler.setting.IsPlain := ⟨fun _ => rfl, rfl⟩
  refine ⟨(Scan.cuts_spellings f.spells_tokens).scan, fun statement lexemes hscan htokens => ?_⟩
  have hyields := yields_filter hu maxNesting f hdepth
  exact ⟨f.predicate, hyields.compileFilter nofun hscan htokens, fun feature => f.evaluate_predicate feature⟩

/-- NOT in front of a parenthesis, AND within OR, and a negative integer. -/
theorem formula_compiled_nested : ∃ a b : AttributeTest, a.name = "a" ∧ b.name = "b" ∧ ∃ p,
    ((⟨.cql, ⟨.plain, CrsRegistry.wellKnown.resolver⟩⟩ : Compiler).compileFilter
      "a = 1 OR NOT (a = 1 OR b < -2) AND b < -2").result = .ok p ∧
    ∀ feature, p.evaluate feature =
      .ok (a.holds feature || (!(a.holds feature || b.holds feature) && b.holds feature)) := by
  let a : AttributeTest := ⟨"a", ⟨'a', [], rfl, by decide, nofun⟩, by decide +kernel, .eq,
    ⟨false, "1", false, List.cons_ne_nil _ _, List.all_eq_true.mp rfl⟩⟩
  let b : AttributeTest := ⟨"b", ⟨'b', [], rfl, by decide, nofun⟩, by decide +kernel, .lt,
    ⟨true, "2", false, List.cons_ne_nil _ _, List.all_eq_true.mp rfl⟩⟩
  let f : Formula := .or (.atom a) (.and (.not (.or (.atom a) (.atom b))) (.atom b))
  have hscanned : (scan "a = 1 OR NOT (a = 1 OR b < -2) AND b < -2").toOption.map tokensOf = some f.tokens := by
    decide +kernel
  refine ⟨a, b, rfl, rfl, ?_⟩
  cases hscan : scan "a = 1 OR NOT (a = 1 OR b < -2) AND b < -2" with
  | error finding =>
    rw [hscan] at hscanned
    cases hscanned
  | ok lexemes =>
    rw [hscan] at hscanned
    exact (formula_compiled .cql CrsRegistry.wellKnown.resolver f (by decide)).2 _ lexemes hscan
      (Option.some.inj hscanned)

end GeoFilter
