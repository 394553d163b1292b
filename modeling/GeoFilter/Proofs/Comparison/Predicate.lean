import GeoFilter.Proofs.Comparison.Expression
import GeoFilter.Proofs.Translation.Predicate

/-!
# Comparing predicates

The parts of a filter that both settings of a comparison translate in the same way, whatever their dialects
are: lists of identifiers, the tests that follow an operand, and the combinations of predicates.
-/

namespace GeoFilter

variable {w : Comparison}

/-! ### Phrases -/

theorem leadingWords_suffix (input : List Lexeme) : (Grammar.leadingWords input).2 <:+ input := by
  induction input with
  | nil => exact List.suffix_rfl
  | cons l ls ih =>
    rw [Grammar.leadingWords]
    split
    · exact ih.trans (List.suffix_cons _ _)
    · exact List.suffix_rfl

theorem shortens_unitWords : Grammar.unitWords.Shortens := by
  intro input words rest h
  have hsuffix := leadingWords_suffix input
  unfold Grammar.unitWords at h
  split at h
  · exact Phrase.Shortens.unexpected _ _ _ _ h
  case h_2 hread =>
    cases h
    rw [hread] at hsuffix
    exact hsuffix

theorem barePattern_suffix {behind? : Option Place} {input rest : List Lexeme} {pattern : String}
    (h : Grammar.barePattern behind? input = .ok (pattern, rest)) : rest <:+ input := by
  induction input generalizing behind? pattern with
  | nil =>
    cases h
    exact List.suffix_rfl
  | cons l ls ih =>
    rw [Grammar.barePattern] at h
    split at h
    · cases h
      exact List.suffix_rfl
    · split at h
      · cases h
      · split at h
        case h_1 hread =>
          cases h
          exact (ih hread).trans (List.suffix_cons _ _)
        case h_2 => cases h

theorem shortens_de9imPattern : Grammar.de9imPattern.Shortens := by
  refine .bind (.acceptIf _) fun quoted? => ?_
  cases quoted? with
  | some pattern => exact .pure _
  | none =>
    refine .bind (.here _) fun start => ?_
    intro input token rest h
    dsimp only at h
    split at h
    · cases h
    case h_2 hread =>
      split at h
      · exact (Phrase.Shortens.unexpected _ _ _ _ h).trans (barePattern_suffix hread)
      · cases h
        exact barePattern_suffix hread

/-! ### Lists of identifiers -/

theorem alike_featureId : Alike w (Translation.featureId w.left) (Translation.featureId w.right) :=
  .read_bind (.expectIf _ _) fun _ => .complete_ok _

theorem alike_featureIds : Alike w (Translation.featureIds w.left) (Translation.featureIds w.right) :=
  .read_bind (.next _) fun _ => .bind (.parenthesized (.commaSeparated alike_featureId)) fun _ =>
    .complete_made (by rw [w.kit_eq])

/-! ### Tests -/

theorem alike_commaBound : Alike w (Translation.commaBound w.left) (Translation.commaBound w.right) :=
  .read_bind (.require _) fun _ => alike_signedLiteral

theorem alike_listMember (hw : w.LiteralsAlike) (levels : Nat) :
    Alike w (Translation.listMember w.left levels) (Translation.listMember w.right levels) :=
  .read_bind (.here _) fun _ => .bind (alike_expression hw levels) fun x => .complete_ok x

theorem alike_inList (hw : w.LiteralsAlike) (levels : Nat) (production : Production) (negated : Bool)
    (left : Expression) (token : SourceToken) :
    Alike w (Translation.inList w.left levels production negated left token)
      (Translation.inList w.right levels production negated left token) :=
  .bind (.parenthesized (.commaSeparated (alike_listMember hw levels))) fun _ =>
    .complete_made (by rw [w.kit_eq])

theorem alike_like (production : Production) (ignoringCase negated : Bool) (left : Expression)
    (token : SourceToken) :
    Alike w (Translation.like w.left production ignoringCase negated left token)
      (Translation.like w.right production ignoringCase negated left token) :=
  .read_bind (.expectIf _ _) fun _ => .bind (.complete_ok ()) fun _ => .complete_made (by rw [w.kit_eq])

theorem alike_between (hw : w.LiteralsAlike) (levels : Nat) (production : Production) (negated : Bool)
    (left : Expression) (token : SourceToken) :
    Alike w (Translation.between w.left levels production negated left token)
      (Translation.between w.right levels production negated left token) :=
  .bind (alike_expression hw levels) fun _ => .read_bind (.expectWord _) fun _ =>
    .bind (alike_expression hw levels) fun _ => .complete_made (by rw [w.kit_eq])

theorem alike_isNull (left : Expression) (token : SourceToken) :
    Alike w (Translation.isNull w.left left token) (Translation.isNull w.right left token) :=
  .read_bind (.acceptWord _) fun _ => .read_bind (.expectWord _) fun _ => .complete_made (by rw [w.kit_eq])

theorem alike_negatedTest (hw : w.LiteralsAlike) (levels : Nat) (left : Expression) (token : SourceToken) :
    Alike w (Translation.negatedTest w.left levels left token)
      (Translation.negatedTest w.right levels left token) := by
  refine .read_bind .peek fun next? => ?_
  cases next?.bind Token.keyword? with
  | none => exact .unexpected _
  | some keyword =>
    cases keyword with
    | IN => exact .read_bind (.next _) fun _ => alike_inList hw levels _ _ left token
    | LIKE => exact .read_bind (.next _) fun _ => alike_like _ _ _ left token
    | ILIKE => exact .read_bind (.next _) fun _ => alike_like _ _ _ left token
    | BETWEEN => exact .read_bind (.next _) fun _ => alike_between hw levels _ _ left token
    | _ => exact .unexpected _

theorem alike_keywordTest (hw : w.LiteralsAlike) (levels : Nat) (left : Expression)
    (keyword? : Option Keyword) :
    Alike w (Translation.keywordTest w.left levels left keyword?)
      (Translation.keywordTest w.right levels left keyword?) := by
  cases keyword? with
  | none => exact .unexpected _
  | some keyword =>
    cases keyword with
    | NOT => exact .read_bind (.next _) fun token => alike_negatedTest hw levels left token
    | IN => exact .read_bind (.next _) fun token => alike_inList hw levels _ _ left token
    | LIKE => exact .read_bind (.next _) fun token => alike_like _ _ _ left token
    | ILIKE => exact .read_bind (.next _) fun token => alike_like _ _ _ left token
    | BETWEEN => exact .read_bind (.next _) fun token => alike_between hw levels _ _ left token
    | IS => exact .read_bind (.next _) fun token => alike_isNull left token
    | _ => exact .unexpected _

/-! ### Combinations -/

theorem alike_joined (word : String) (production : Production) {combine combine' : Predicate → Predicate → Predicate}
    (hcombine : combine' = combine) {item item' : Translation Predicate} (hitem : Alike w item item') :
    Alike w (Translation.joined w.left word production combine item)
      (Translation.joined w.right word production combine' item') := by
  subst hcombine
  refine hitem.bind fun p => (Alike.repeatAfter (.acceptWord _) fun token => ?_).map
  exact hitem.bind fun q => .complete_ok q

theorem alike_disjunctionOf {negation negation' : Translation Predicate} (h : Alike w negation negation') :
    Alike w (Translation.disjunctionOf w.left negation) (Translation.disjunctionOf w.right negation') :=
  alike_joined _ _ (by rw [w.kit_eq]) (alike_joined _ _ (by rw [w.kit_eq]) h)

theorem alike_negationWith {inner? inner?' : Option (Translation Predicate)} {levels : Nat}
    (hprimary : ∀ {group? group?' : Option (Translation Predicate)}, Option.Rel (Alike w) group? group?' →
      Alike w (Translation.primary w.left levels group?) (Translation.primary w.right levels group?'))
    (hinner : Option.Rel (Alike w) inner? inner?') :
    Alike w (Translation.negationWith w.left levels inner?)
      (Translation.negationWith w.right levels inner?') := by
  refine .read_bind (.acceptWord _) fun not? => ?_
  cases not? with
  | some token => exact .bind (.nested hinner token) fun _ => .complete_made (by rw [w.kit_eq])
  | none =>
    refine hprimary ?_
    cases hinner with
    | none => exact .none
    | some h => exact .some (alike_disjunctionOf h)

/-- Filters are alike as soon as the groups and the single predicates in them are. -/
theorem alike_filter
    (hprimary : ∀ levels {group? group?' : Option (Translation Predicate)},
      Option.Rel (Alike w) group? group?' →
        Alike w (Translation.primary w.left levels group?) (Translation.primary w.right levels group?'))
    (levels : Nat) : Alike w (Translation.filter w.left levels) (Translation.filter w.right levels) := by
  refine alike_disjunctionOf ?_
  induction levels with
  | zero => exact alike_negationWith (hprimary 0) .none
  | succ levels ih => exact alike_negationWith (hprimary (levels + 1)) (.some ih)

end GeoFilter
