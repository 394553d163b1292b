import GeoFilter.Proofs.Compilation
import GeoFilter.Proofs.Ensures.Predicate
import GeoFilter.Proofs.Rereading.Predicate
import GeoFilter.Proofs.Tokenizer
import GeoFilter.Proofs.Yield.Statement

/-!
# Shown filters are statements

A filter that is compiled from unquoted words and finite numbers is shown as a statement of the same meaning, if it is
one of those that are shown as filters.
-/

namespace GeoFilter

def Token.IsUnquoted : Token → Prop
  | .word _ quote => quote = none
  | _ => True

instance (token : Token) : Decidable token.IsUnquoted :=
  match token with
  | .word _ quote => inferInstanceAs (Decidable (quote = none))
  | .number .. | .quoted _ | .sign _ | .other _ => .isTrue trivial

theorem Token.isPlain_of_isCut {token : Token} (hcut : Scan.IsCut token) (hquote : token.IsUnquoted)
    (hfinite : token.IsFinite) : token.IsPlain := by
  cases token with
  | number text long => exact ⟨hcut, hfinite⟩
  | word text quote =>
    obtain rfl : quote = none := hquote
    exact ⟨rfl, hcut⟩
  | _ => trivial

/-- A registry answers a system with the number that it was asked for, and answers it again for that number. -/
theorem CrsRegistry.isKnown_of_resolved (registry : CrsRegistry) {srid : Int32} {crs : Crs}
    (h : registry.resolver srid = .ok crs) : crs.IsKnown registry.resolver := by
  have hcrs : 0 < srid.toInt ∧ crs.srid = srid := by
    unfold resolver at h
    split at h
    · cases h
    case isFalse hpos =>
      split at h
      · cases h
        exact ⟨by omega, rfl⟩
      · cases h
  refine ⟨?_, ?_⟩
  · rw [hcrs.2]
    exact hcrs.1
  · rw [hcrs.2]
    exact h

theorem Predicate.RereadAs.filter {u : Setting} {p q : Predicate} {ts : List Token} (h : p.RereadAs u ts q) {levels : Nat}
    (hdepth : p.depth ≤ levels) : Yields (Translation.filter u levels) ts (fun r => r = []) (some q) := by
  have hnegation : Yields (Translation.negation u levels) ts (fun r => r = []) (some q) := by
    refine (h.yields levels hdepth).mono fun r hr => ?_
    subst hr
    exact ⟨nofun, nofun⟩
  have hwithout : ∀ word, ∀ r : List Token, r = [] → Without (Token.isWord word) r := by
    intro word r hr
    subst hr
    exact nofun
  exact (hnegation.joined_single (hwithout "AND")).joined_single (hwithout "OR")

section Statement

variable (registry : CrsRegistry) {statement : String} {lexemes : List Lexeme} {p : Predicate}

/-- Predicates of statements without quoted words and too large numbers are as such statements write them. -/
theorem compiled_of_plain (hscan : scan statement = .ok lexemes)
    (hplain : ∀ l ∈ lexemes, l.token.IsUnquoted ∧ l.token.IsFinite)
    (hcompiled : ((⟨.ecql, ⟨.plain, registry.resolver⟩⟩ : Compiler).compileFilter statement).result = .ok p) :
    p.Compiled registry.resolver := by
  let u : Setting := ⟨.ecql, ⟨.plain, registry.resolver⟩, fun _ => true⟩
  have hu : u.IsPlain := ⟨fun _ => rfl, rfl⟩
  have hsound : AllSound Token.IsPlain lexemes := by
    refine List.forall_mem_map.mpr fun l hl => ?_
    exact Token.isPlain_of_isCut (isCut_of_scan hscan l hl) (hplain l hl).1 (hplain l hl).2
  have hsaid := (compileFilter_reports (u := u) hscan).eq_ok (not_unpermittedIn (fun _ => rfl) _) hcompiled
  have hread : Translation.filter u maxNesting lexemes = .ok (p, []) := toEnd_eq_ok.mp hsaid
  have hensures : Ensures Token.IsPlain Anything (Translation.filter u maxNesting) (Predicate.Compiled u.kit.resolver) :=
    ensures_filter hu rfl (fun _ _ => registry.isKnown_of_resolved) maxNesting
  exact (hensures lexemes p [] hsound trivial hread).1

/-- **Shown filters are read again.**  If the predicate of a statement without quoted words and too large numbers is one
of those that are shown as filters, and its text is not nested more deeply than a statement may be, then its text
compiles to an equal predicate. -/
theorem shown_filter_compiled (hscan : scan statement = .ok lexemes)
    (hplain : ∀ l ∈ lexemes, l.token.IsUnquoted ∧ l.token.IsFinite)
    (hcompiled : ((⟨.ecql, ⟨.plain, registry.resolver⟩⟩ : Compiler).compileFilter statement).result = .ok p)
    (hrereadable : p.isRereadable = true) (hdepth : p.depth ≤ maxNesting) :
    ∃ q, ((⟨.ecql, ⟨.plain, registry.resolver⟩⟩ : Compiler).compileFilter p.toText).result = .ok q ∧
      (q == p) = true := by
  let compiler : Compiler := ⟨.ecql, ⟨.plain, registry.resolver⟩⟩
  have hu : compiler.setting.IsPlain := ⟨fun _ => rfl, rfl⟩
  have htree := compiled_of_plain registry hscan hplain hcompiled
  obtain ⟨ts, q, hq⟩ := Predicate.Compiled.reread (u := compiler.setting) hu rfl htree hrereadable
  obtain ⟨lexemes', hscan', htokens⟩ := (hq.spells.cuts nofun).scan
  exact ⟨q, (hq.filter hdepth).compileFilter rfl hscan' htokens, hq.same⟩

end Statement

theorem exists_ok_of_any {r : Except ε α} {f : α → Bool} (h : r.toOption.any f = true) : ∃ a, r = .ok a ∧ f a = true := by
  cases r with
  | ok a => exact ⟨a, rfl, h⟩
  | error e => cases h

/-- Arithmetic behind an operator, a negated group, a quote in a pattern and a geometry with a reference system. -/
theorem shown_filter_compiled_streets : ∃ lexemes p q,
    scan "w > (a + 1) * 2 OR NOT (b.n ILIKE 'O''B%' AND WITHIN(g, SRID=4326;POINT(1 -2.5)))" = .ok lexemes ∧
    (∀ l ∈ lexemes, l.token.IsUnquoted ∧ l.token.IsFinite) ∧
    ((⟨.ecql, ⟨.plain, CrsRegistry.wellKnown.resolver⟩⟩ : Compiler).compileFilter
      "w > (a + 1) * 2 OR NOT (b.n ILIKE 'O''B%' AND WITHIN(g, SRID=4326;POINT(1 -2.5)))").result = .ok p ∧
    p.isRereadable = true ∧ p.depth ≤ maxNesting ∧
    ((⟨.ecql, ⟨.plain, CrsRegistry.wellKnown.resolver⟩⟩ : Compiler).compileFilter p.toText).result = .ok q ∧
    (q == p) = true := by
  obtain ⟨lexemes, hscan, hplain⟩ := exists_ok_of_any (f := fun lexemes : List Lexeme =>
    decide (∀ l ∈ lexemes, l.token.IsUnquoted ∧ l.token.IsFinite))
    (r := scan "w > (a + 1) * 2 OR NOT (b.n ILIKE 'O''B%' AND WITHIN(g, SRID=4326;POINT(1 -2.5)))")
    (by decide +kernel)
  have hplain := of_decide_eq_true hplain
  obtain ⟨p, hp, hshown⟩ := exists_ok_of_any (f := fun p => p.isRereadable && decide (p.depth ≤ maxNesting))
    (r := ((⟨.ecql, ⟨.plain, CrsRegistry.wellKnown.resolver⟩⟩ : Compiler).compileFilter
      "w > (a + 1) * 2 OR NOT (b.n ILIKE 'O''B%' AND WITHIN(g, SRID=4326;POINT(1 -2.5)))").result) (by decide +kernel)
  obtain ⟨hrereadable, hdepth⟩ := Bool.and_eq_true_iff.mp hshown
  have hdepth := of_decide_eq_true hdepth
  obtain ⟨q, hq, hsame⟩ := shown_filter_compiled CrsRegistry.wellKnown hscan hplain hp hrereadable hdepth
  exact ⟨lexemes, p, q, hscan, hplain, hp, hrereadable, hdepth, hq, hsame⟩

/-- Whether a statement without quoted words and too large numbers compiles to a predicate whose text does not. -/
def IsShownAsNoFilter (statement : String) : Prop :=
  ∃ lexemes p, scan statement = .ok lexemes ∧ (∀ l ∈ lexemes, l.token.IsUnquoted ∧ l.token.IsFinite) ∧
    ((⟨.ecql, ⟨.plain, CrsRegistry.wellKnown.resolver⟩⟩ : Compiler).compileFilter statement).result = .ok p ∧
    p.depth ≤ maxNesting ∧
    ∀ q, ((⟨.ecql, ⟨.plain, CrsRegistry.wellKnown.resolver⟩⟩ : Compiler).compileFilter p.toText).result ≠ .ok q

/-- A test of arithmetic, a relation without a pattern, an attribute of the word that qualifies geometries and a rectangle
are shown as no filters: a parenthesis at the start of a predicate opens a group, and so on. -/
theorem shown_filter_not_compiled :
    IsShownAsNoFilter "a + 1 = 2" ∧ IsShownAsNoFilter "RELATE(a, b)" ∧ IsShownAsNoFilter "srid IN (1, 2)" ∧
      IsShownAsNoFilter "BBOX(a, 1, 2, 3, 4)" := by
  have hshown : ∀ statement, (scan statement).toOption.any (fun lexemes =>
        decide (∀ l ∈ lexemes, l.token.IsUnquoted ∧ l.token.IsFinite)) = true →
      ((⟨.ecql, ⟨.plain, CrsRegistry.wellKnown.resolver⟩⟩ : Compiler).compileFilter statement).result.toOption.any
        (fun p => decide (p.depth ≤ maxNesting) && ((⟨.ecql, ⟨.plain, CrsRegistry.wellKnown.resolver⟩⟩ :
          Compiler).compileFilter p.toText).result.toOption.isNone) = true → IsShownAsNoFilter statement := by
    intro statement hscanned hcompiled
    obtain ⟨lexemes, hscan, hplain⟩ := exists_ok_of_any hscanned
    obtain ⟨p, hp, hshown⟩ := exists_ok_of_any hcompiled
    obtain ⟨hdepth, hnone⟩ := Bool.and_eq_true_iff.mp hshown
    refine ⟨lexemes, p, hscan, of_decide_eq_true hplain, hp, of_decide_eq_true hdepth, fun q hq => ?_⟩
    rw [hq] at hnone
    cases hnone
  exact ⟨hshown _ (by decide +kernel) (by decide +kernel), hshown _ (by decide +kernel) (by decide +kernel),
    hshown _ (by decide +kernel) (by decide +kernel), hshown _ (by decide +kernel) (by decide +kernel)⟩

end GeoFilter
