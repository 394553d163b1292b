import GeoFilter.Proofs.Derivation.Expression
import GeoFilter.Proofs.GeometryText.Reading
import GeoFilter.Proofs.Yield.Expression
import GeoFilter.Proofs.Yield.Statement

/-!
# Geometry texts as statements

A geometry text compiles to exactly the geometry that it writes, and one that writes none is refused because of
its coordinates.
-/

namespace GeoFilter

variable {u : Setting} {t : GeometryText}

theorem yields_expression_geometry (hpermits : ∀ red, u.permits red = true) {levels : Nat} (hdepth : t.depth ≤ levels) :
    Yields (Translation.expression u levels) t.tokens EndsExpression
      (t.value?.map fun g => .literal (.geometry ⟨g, none⟩)) :=
  .expression_of_factor (fun _ hr => hr) ((yields_factor hpermits hdepth).mono fun _ _ => trivial)

theorem Yields.expressionStatement_eq_error {ts : List Token}
    (h : Yields (Translation.expression u maxNesting) ts EndsExpression none) {lexemes : List Lexeme}
    (htokens : tokensOf lexemes = ts) : ∃ e token, Translation.expressionStatement u lexemes =
      .error (.finding ⟨.degenerateGeometry e, token, none⟩) := by
  obtain ⟨e, token, hread⟩ := h lexemes [] (by rw [htokens, List.append_nil]) nofun
  exact ⟨e, token, Translation.bind_of_error hread⟩

/-- **Geometry texts are built faithfully.**  In both dialects, and for every way of scanning its tokens, a
geometry text with at most as many collections open as a statement may nest compiles to the geometry literal of
exactly its coordinates, rings and members in their order, if its lines and rings are well-formed; if they are
not, the compiler finds coordinates that make no geometry.  Every number of a statement has a value, so that any
numbers can be ordinates. -/
theorem geometry_text_compiled (compiler : Compiler) (t : GeometryText) (hdepth : t.depth ≤ maxNesting)
    (lexemes : List Lexeme) (htokens : tokensOf lexemes = t.tokens) :
    (t.WellFormed → ∃ g, t.value? = some g ∧
      (∀ atEnd, (compiler.assemble .expression atEnd lexemes).1.bind (Compiler.treesOf Entry.toExpression) =
        .ok [.literal (.geometry ⟨g, none⟩)]) ∧
      ∀ statement, scan statement = .ok lexemes →
        (compiler.compileExpression statement).result = .ok (.literal (.geometry ⟨g, none⟩))) ∧
    (¬t.WellFormed → ∃ e token,
      (∀ atEnd, (compiler.assemble .expression atEnd lexemes).1.bind (Compiler.treesOf Entry.toExpression) =
        .error (.finding ⟨.degenerateGeometry e, token, none⟩)) ∧
      ∀ statement, scan statement = .ok lexemes → (compiler.compileExpression statement).result =
        .error (.error (Finding.inStatement ⟨.degenerateGeometry e, token, none⟩ statement))) ∧
    ∀ statement, scan statement = .ok lexemes → ∀ text long negative, .number text long ∈ tokensOf lexemes →
      ∃ v, Number.readSigned? negative text = some v := by
  let u : Setting := compiler.setting
  have hpermits : ∀ red, u.permits red = true := fun _ => rfl
  have hyields := yields_expression_geometry hpermits hdepth
  have hanswers : ∀ atEnd, Answers u HoldsOperand atEnd
      (Grammar.statementParts compiler.dialect lexemes .expression) _ := fun _ => answers_expression lexemes
  refine ⟨fun hwell => ?_, fun hill => ?_, fun statement hscan text long negative hnumber => ?_⟩
  · obtain ⟨g, hg⟩ := Option.isSome_iff_exists.mp ((GeometryText.isSome_value? t).mpr hwell)
    rw [hg] at hyields
    have hsaid : (Translation.expressionStatement u lexemes).map Prod.fst = .ok (.literal (.geometry ⟨g, none⟩)) :=
      hyields.toEnd_eq_ok nofun htokens
    refine ⟨g, hg, fun atEnd => ?_, fun statement hscan => ?_⟩
    · refine ((hanswers atEnd).trees_eq_ok hpermits fun _ _ h => h.toExpression).mpr ?_
      cases hread : Translation.expressionStatement u lexemes with
      | error stop =>
        rw [hread] at hsaid
        cases hsaid
      | ok x =>
        rw [hread] at hsaid
        exact congrArg (fun x => Except.ok [x]) (Except.ok.inj hsaid)
    · have hreports := compileExpression_reports (u := u) hscan
      exact (hsaid ▸ hreports).of_ok
  · have hnone : t.value? = none := by
      rw [← Option.not_isSome_iff_eq_none, GeometryText.isSome_value?]
      exact hill
    rw [hnone] at hyields
    obtain ⟨e, token, hsaid⟩ := hyields.expressionStatement_eq_error htokens
    refine ⟨e, token, fun atEnd => ?_, fun statement hscan => ?_⟩
    · have hfound := hanswers atEnd
      rw [hsaid] at hfound
      cases hfound with
      | finding hresult => exact congrArg (Except.bind · _) hresult
    · have hreports := compileExpression_reports (u := u) hscan
      rw [hsaid] at hreports
      cases hreports with
      | finding h => exact h
  · obtain ⟨l, hl, htoken⟩ := List.mem_map.mp hnumber
    exact (numeral_of_scan hscan l hl text long htoken).readSigned_isSome negative

/-- Points and a line in a collection stay apart, and a line of one point is none. -/
theorem geometry_text_compiled_members :
    (∃ lexemes t g, scan "GEOMETRYCOLLECTION(MultiPoint((1 2), 2 1), LINESTRING(1 1, 2 2))" = .ok lexemes ∧
      tokensOf lexemes = GeometryText.tokens t ∧ t.value? = some g ∧
      ((⟨.cql, ⟨.plain, CrsRegistry.wellKnown.resolver⟩⟩ : Compiler).compileExpression
        "GEOMETRYCOLLECTION(MultiPoint((1 2), 2 1), LINESTRING(1 1, 2 2))").result =
          .ok (.literal (.geometry ⟨g, none⟩))) ∧
    ∃ e token, ((⟨.ecql, ⟨.plain, CrsRegistry.wellKnown.resolver⟩⟩ : Compiler).compileExpression
      "LINESTRING(1 2)").result =
        .error (.error (Finding.inStatement ⟨.degenerateGeometry e, token, none⟩ "LINESTRING(1 2)")) := by
  let one : SignedNumber := ⟨false, "1", false, .integer 1, rfl⟩
  let two : SignedNumber := ⟨false, "2", false, .integer 2, rfl⟩
  let t : GeometryText := .collection ⟨"GEOMETRYCOLLECTION", by decide +kernel⟩
    (.multiPoint ⟨"MultiPoint", by decide +kernel⟩ ⟨⟨⟨one, two⟩, true⟩, [⟨⟨two, one⟩, false⟩]⟩)
    [.lineString ⟨"LINESTRING", by decide +kernel⟩ ⟨⟨one, one⟩, [⟨two, two⟩]⟩]
  let short : GeometryText := .lineString ⟨"LINESTRING", by decide +kernel⟩ ⟨⟨one, two⟩, []⟩
  have hscan : ∀ (statement : String) (tokens : List Token),
      (scan statement).toOption.map tokensOf = some tokens →
        ∃ lexemes, scan statement = .ok lexemes ∧ tokensOf lexemes = tokens := by
    intro statement tokens h
    cases hlexemes : scan statement with
    | error f =>
      rw [hlexemes] at h
      cases h
    | ok lexemes =>
      rw [hlexemes] at h
      exact ⟨lexemes, rfl, Option.some.inj h⟩
  constructor
  · obtain ⟨lexemes, hlexemes, htokens⟩ :=
      hscan "GEOMETRYCOLLECTION(MultiPoint((1 2), 2 1), LINESTRING(1 1, 2 2))" t.tokens (by decide +kernel)
    have hcompiled := geometry_text_compiled ⟨.cql, ⟨.plain, CrsRegistry.wellKnown.resolver⟩⟩ t (by decide) lexemes
      htokens
    obtain ⟨g, hg, _, hresult⟩ := hcompiled.1 ⟨trivial, Nat.le_refl 2, trivial⟩
    exact ⟨lexemes, t, g, hlexemes, htokens, hg, hresult _ hlexemes⟩
  · obtain ⟨lexemes, hlexemes, htokens⟩ := hscan "LINESTRING(1 2)" short.tokens (by decide +kernel)
    have hcompiled := geometry_text_compiled ⟨.ecql, ⟨.plain, CrsRegistry.wellKnown.resolver⟩⟩ short (by decide)
      lexemes htokens
    obtain ⟨e, token, _, hresult⟩ := hcompiled.2.1 (Nat.not_succ_le_self 1)
    exact ⟨e, token, hresult _ hlexemes⟩

end GeoFilter
