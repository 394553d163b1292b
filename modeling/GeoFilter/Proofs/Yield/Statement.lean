import GeoFilter.Proofs.Compilation
import GeoFilter.Proofs.Yield

/-!
# What statements come to

A statement whose tokens are known compiles to what a translation yields of them.
-/

namespace GeoFilter

theorem Compiler.isPlain_setting {compiler : Compiler} (hplain : compiler.toolkit.factory = .plain) :
    compiler.setting.IsPlain := ⟨fun _ => rfl, hplain⟩

namespace Yields

variable {u : Setting} {ts : List Token} {F : List Token → Prop} {lexemes : List Lexeme}

theorem toEnd_eq_ok {c : Translation α} {a : α} (h : Yields c ts F (some a)) (hF : F [])
    (htokens : tokensOf lexemes = ts) : (Translation.toEnd c lexemes).map Prod.fst = .ok a := by
  obtain ⟨rest, hread, hrest⟩ := h lexemes [] (by rw [htokens, List.append_nil]) hF
  obtain rfl := List.map_eq_nil_iff.mp hrest
  exact GeoFilter.toEnd_eq_ok.mpr hread

theorem compileFilter {compiler : Compiler} {p : Predicate}
    (h : Yields (Translation.filter compiler.setting maxNesting) ts F (some p)) (hF : F [])
    {statement : String} (hscan : scan statement = .ok lexemes) (htokens : tokensOf lexemes = ts) :
    (compiler.compileFilter statement).result = .ok p := by
  have hreports := compileFilter_reports (u := compiler.setting) hscan
  have hsaid : (Translation.filterStatement compiler.setting lexemes).map Prod.fst = .ok p :=
    h.toEnd_eq_ok hF htokens
  exact (hsaid ▸ hreports).of_ok

theorem compileExpression {compiler : Compiler} {x : Expression}
    (h : Yields (Translation.expression compiler.setting maxNesting) ts F (some x)) (hF : F [])
    {statement : String} (hscan : scan statement = .ok lexemes) (htokens : tokensOf lexemes = ts) :
    (compiler.compileExpression statement).result = .ok x := by
  have hreports := compileExpression_reports (u := compiler.setting) hscan
  have hsaid : (Translation.expressionStatement compiler.setting lexemes).map Prod.fst = .ok x :=
    h.toEnd_eq_ok hF htokens
  exact (hsaid ▸ hreports).of_ok

end Yields

end GeoFilter
