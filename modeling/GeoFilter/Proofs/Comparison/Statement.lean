import GeoFilter.Proofs.Comparison.Predicate
import GeoFilter.Proofs.Translation.Statement

/-!
# Comparing statements

Whole statements are alike as soon as the filters or the expressions in them are.
-/

namespace GeoFilter

variable {w : Comparison}

theorem shortens_statementEnd : Grammar.statementEnd.Shortens := by
  rintro (_ | ⟨l, input⟩) a rest h <;> cases h
  exact List.suffix_rfl

theorem alike_toEnd {body body' : Translation α} (h : Alike w body body') :
    Alike w (Translation.toEnd body) (Translation.toEnd body') :=
  h.bind fun a => .read_bind shortens_statementEnd fun _ => .pure a

theorem alike_expressionStatement (hw : w.LiteralsAlike) :
    Alike w (Translation.expressionStatement w.left) (Translation.expressionStatement w.right) :=
  alike_toEnd (alike_expression hw maxNesting)

/-- What the settings come to for lists of filters, where the left one makes a list. -/
theorem filterList_of_alike
    (h : Alike w (Translation.filter w.left maxNesting) (Translation.filter w.right maxNesting)) {fuel : Nat}
    {input : List Lexeme} {ps : List Predicate} (hinput : input <:+ w.lexemes)
    (hleft : Translation.filterList w.left fuel input = .ok ps) :
    Translation.filterList w.right fuel input = .ok ps := by
  induction fuel generalizing input ps with
  | zero => exact hleft
  | succ fuel ih =>
    have hfilter := h input hinput
    rw [Translation.filterList] at hleft ⊢
    generalize Translation.filter w.left maxNesting input = said,
      Translation.filter w.right maxNesting input = said' at hfilter hleft ⊢
    cases hfilter with
    | stop => cases hleft
    | @value p rest hrest =>
      cases rest with
      | nil => exact hleft
      | cons l rest =>
        dsimp only at hleft ⊢
        split
        case isTrue hsemicolon =>
          rw [if_pos hsemicolon] at hleft
          split
          case isTrue hempty => rwa [if_pos hempty] at hleft
          case isFalse hnonempty =>
            rw [if_neg hnonempty] at hleft
            cases hmore : Translation.filterList w.left fuel rest with
            | ok qs =>
              rw [hmore] at hleft
              rw [ih ((List.suffix_cons _ _).trans hrest) hmore]
              exact hleft
            | error stop =>
              rw [hmore] at hleft
              cases hleft
        case isFalse hother => rwa [if_neg hother] at hleft

end GeoFilter
