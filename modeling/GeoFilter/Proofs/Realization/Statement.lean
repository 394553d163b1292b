import GeoFilter.Assembly.Build
import GeoFilter.Proofs.Realization.Predicate
import GeoFilter.Proofs.Translation.Statement

/-!
# Statements realized

The parts of a statement, assembled one after the other, come to what its translation says.  `Answers` is to
the parts of a statement what `Realized` is to a reading.
-/

namespace GeoFilter

open Assembly (run step steps assemblePart assembleParts)
open Phrase (Quiet)
open ResultsStack (Settled)

def StatementPart.reductions : StatementPart → List Reduction
  | .whole reductions | .broken reductions _ => reductions

/-- What the assembly of some parts comes to, against what a translation says. -/
inductive Answers (u : Setting) (R : β → Entry → Prop) (atEnd : SourceToken) (parts : List StatementPart) :
    Except Stop (List β) → Prop
  | value {bs : List β} {es : List Entry}
      (hresult : (assembleParts u.dialect u.kit atEnd parts).1 = .ok es) (hes : List.Forall₂ R bs es) :
      Answers u R atEnd parts (.ok bs)
  | fault {f : SyntaxFault}
      (hresult : (assembleParts u.dialect u.kit atEnd parts).1 = .error (.finding (f.toFinding atEnd))) :
      Answers u R atEnd parts (.error (.fault f))
  | finding {f : Finding}
      (hresult : (assembleParts u.dialect u.kit atEnd parts).1 = .error (.finding f)) :
      Answers u R atEnd parts (.error (.finding f))
  | refused {part : StatementPart} {red : Reduction} (hpart : part ∈ parts) (hmem : red ∈ part.reductions)
      (hred : u.permits red = false) : Answers u R atEnd parts (.error (.refused red))

variable {u : Setting} {R : β → Entry → Prop} {atEnd : SourceToken}

/-! ### One part -/

theorem assembleParts_nil : (assembleParts u.dialect u.kit atEnd []).1 = .ok [] := rfl

theorem assembleParts_cons {dialect : Dialect} {kit : Toolkit} (part : StatementPart)
    (parts : List StatementPart) :
    (assembleParts dialect kit atEnd (part :: parts)).1 =
      match run (assemblePart dialect kit atEnd part) [] with
      | .ok (e, _) => (assembleParts dialect kit atEnd parts).1.map (e :: ·)
      | .error fault => .error fault := by
  rw [assembleParts, run]
  rcases assemblePart dialect kit atEnd part [] with ⟨fault | e, s, notes⟩ <;> rfl

theorem reductions_toPart (r : Reading α) : r.toPart.reductions = r.reductions := by
  unfold Reading.toPart
  split <;> rfl

theorem Answers.cons {r : Reading α} {b : β} {rest : List Lexeme} {parts : List StatementPart}
    {said : Except Stop (List β)} (hr : Realized u (Pushes R []) r [] (.ok (b, rest)))
    (hparts : Answers u R atEnd parts said) :
    Answers u R atEnd (.whole r.reductions :: parts) (said.map (b :: ·)) := by
  cases hr with
  | value houtcome hsteps hpost =>
    obtain ⟨e, he, rfl⟩ := hpost
    have hpart : run (assemblePart u.dialect u.kit atEnd (.whole r.reductions)) [] = .ok (e, []) := by
      rw [assemblePart, Assembly.run_bind, hsteps]
      rfl
    have hcons : (assembleParts u.dialect u.kit atEnd (.whole r.reductions :: parts)).1 = _ :=
      assembleParts_cons _ _
    rw [hpart] at hcons
    cases hparts with
    | value hresult hes =>
      rw [hresult] at hcons
      exact .value hcons (.cons he hes)
    | fault hresult =>
      rw [hresult] at hcons
      exact .fault hcons
    | finding hresult =>
      rw [hresult] at hcons
      exact .finding hcons
    | refused hpart hmem hred => exact .refused (List.mem_cons_of_mem _ hpart) hmem hred

theorem Answers.last {r : Reading α} {b : β} {rest : List Lexeme}
    (hr : Realized u (Pushes R []) r [] (.ok (b, rest))) :
    Answers u R atEnd [.whole r.reductions] (.ok [b]) := by
  have hnil : Answers u R atEnd [] (.ok []) := .value assembleParts_nil .nil
  exact .cons hr hnil

theorem Answers.stop {r : Reading α} {Q : α → β → ResultsStack → Prop} {stop : Stop}
    (hr : Realized u Q r [] (.error stop)) (parts : List StatementPart) :
    Answers u R atEnd (r.toPart :: parts) (.error stop) := by
  have hcons : (assembleParts u.dialect u.kit atEnd (r.toPart :: parts)).1 = _ := assembleParts_cons _ _
  cases hr with
  | fault houtcome hsteps =>
    rw [Reading.toPart, houtcome] at hcons ⊢
    simp only [assemblePart, Assembly.run_bind, hsteps, Assembly.run_failWith] at hcons
    exact .fault hcons
  | @finding f hsteps =>
    have hpart : run (assemblePart u.dialect u.kit atEnd r.toPart) [] = .error (.finding f) := by
      unfold Reading.toPart
      split <;> rw [assemblePart, Assembly.run_bind, hsteps]
    rw [hpart] at hcons
    exact .finding hcons
  | refused hmem hred => exact .refused List.mem_cons_self (by rwa [reductions_toPart]) hred

theorem Realized.toPart_eq {r : Reading α} {Q : α → β → ResultsStack → Prop} {s : ResultsStack}
    {b : β} {rest : List Lexeme} (hr : Realized u Q r s (.ok (b, rest))) :
    r.toPart = .whole r.reductions := by
  cases hr with
  | value houtcome _ _ => rw [Reading.toPart, houtcome]

theorem Realized.toPart_fault {r : Reading α} {Q : α → β → ResultsStack → Prop} {s : ResultsStack} {f : SyntaxFault}
    (hr : Realized u Q r s (.error (.fault f))) : r.toPart = .broken r.reductions f := by
  cases hr with
  | fault houtcome _ => rw [Reading.toPart, houtcome]

theorem answers_single {r : Reading α} {said : Except Stop (β × List Lexeme)}
    (hr : Realized u (Pushes R []) r [] said) :
    Answers u R atEnd [r.toPart] (said.map fun x => [x.1]) := by
  cases said with
  | error stop => exact .stop hr []
  | ok x =>
    rw [hr.toPart_eq]
    exact .last hr

/-! ### Whole statements -/

theorem quiet_statementEnd : Grammar.statementEnd.Quiet := by
  rintro (_ | ⟨l, rest⟩) <;> rfl

theorem realizes_toEnd {p : Phrase Unit} {c : Translation β} {s : ResultsStack}
    (h : Realizes u p s c (Pushes R s)) :
    Realizes u (Grammar.toEnd p) s (Translation.toEnd c) (Pushes R s) :=
  h.bind fun _ _ _ hb => .map_right (.read quiet_statementEnd fun _ => hb)

theorem answers_filter (lexemes : List Lexeme) :
    Answers u HoldsPredicate atEnd (Grammar.statementParts u.dialect lexemes .filter)
      ((Translation.filterStatement u lexemes).map fun x => [x.1]) :=
  answers_single (realizes_toEnd (realizes_filter maxNesting ResultsStack.settled_nil) lexemes)

theorem answers_expression (lexemes : List Lexeme) :
    Answers u HoldsOperand atEnd (Grammar.statementParts u.dialect lexemes .expression)
      ((Translation.expressionStatement u lexemes).map fun x => [x.1]) :=
  answers_single (realizes_toEnd (realizes_expression maxNesting ResultsStack.settled_nil) lexemes)

theorem answers_filterList (fuel : Nat) (lexemes : List Lexeme) :
    Answers u HoldsPredicate atEnd (Grammar.filterList u.dialect fuel lexemes)
      (Translation.filterList u fuel lexemes) := by
  induction fuel generalizing lexemes with
  | zero => exact .value assembleParts_nil .nil
  | succ fuel ih =>
    have hfilter := realizes_filter (u := u) maxNesting ResultsStack.settled_nil lexemes
    rw [Grammar.filterList, Translation.filterList]
    rcases hread : Grammar.filter u.dialect maxNesting lexemes with ⟨done, outcome⟩
    rw [hread] at hfilter
    rcases hsaid : Translation.filter u maxNesting lexemes with stop | ⟨p, rest⟩
    · rw [hsaid] at hfilter
      cases outcome with
      | error fault => exact .stop hfilter []
      | ok x => exact .stop hfilter _
    · rw [hsaid] at hfilter
      have houtcome : ∃ a, outcome = .ok (a, rest) := by
        cases hfilter with
        | value houtcome _ _ => exact ⟨_, houtcome⟩
      obtain ⟨a, rfl⟩ := houtcome
      cases rest with
      | nil => exact .last hfilter
      | cons l rest =>
        dsimp only
        split
        · split
          · exact .last hfilter
          · exact .cons hfilter (ih rest)
        · have hother : Answers u HoldsPredicate atEnd [.broken [] (.unexpected "';' or end of statement" l.source)]
              (.error (.fault (.unexpected "';' or end of statement" l.source))) := .fault rfl
          exact .cons hfilter hother

theorem answers_list (lexemes : List Lexeme) :
    Answers u HoldsPredicate atEnd (Grammar.statementParts u.dialect lexemes .list)
      (Translation.listStatement u lexemes) :=
  answers_filterList _ lexemes

/-! ### Faults of statements -/

theorem broken_of_filter {lexemes : List Lexeme} {f : SyntaxFault}
    (h : Translation.filterStatement u lexemes = .error (.fault f)) :
    ∃ done, .broken done f ∈ Grammar.statementParts u.dialect lexemes .filter := by
  have hreading := realizes_toEnd (realizes_filter (u := u) maxNesting ResultsStack.settled_nil) lexemes
  change Realized u _ _ _ (Translation.filterStatement u lexemes) at hreading
  rw [h] at hreading
  exact ⟨_, List.mem_singleton.mpr hreading.toPart_fault.symm⟩

theorem broken_of_expression {lexemes : List Lexeme} {f : SyntaxFault}
    (h : Translation.expressionStatement u lexemes = .error (.fault f)) :
    ∃ done, .broken done f ∈ Grammar.statementParts u.dialect lexemes .expression := by
  have hreading := realizes_toEnd (realizes_expression (u := u) maxNesting ResultsStack.settled_nil) lexemes
  change Realized u _ _ _ (Translation.expressionStatement u lexemes) at hreading
  rw [h] at hreading
  exact ⟨_, List.mem_singleton.mpr hreading.toPart_fault.symm⟩

theorem broken_of_filterList {fuel : Nat} {lexemes : List Lexeme} {f : SyntaxFault}
    (h : Translation.filterList u fuel lexemes = .error (.fault f)) :
    ∃ done, .broken done f ∈ Grammar.filterList u.dialect fuel lexemes := by
  induction fuel generalizing lexemes with
  | zero => cases h
  | succ fuel ih =>
    have hfilter := realizes_filter (u := u) maxNesting ResultsStack.settled_nil lexemes
    rw [Grammar.filterList]
    rw [Translation.filterList] at h
    rcases hread : Grammar.filter u.dialect maxNesting lexemes with ⟨done, outcome⟩
    rw [hread] at hfilter
    rcases hsaid : Translation.filter u maxNesting lexemes with stop | ⟨p, rest⟩
    · rw [hsaid] at h hfilter
      cases h
      cases hfilter with
      | fault houtcome _ =>
        cases houtcome
        exact ⟨done, List.mem_cons_self⟩
    · rw [hsaid] at h hfilter
      cases hfilter with
      | value houtcome _ _ =>
        cases houtcome
        cases rest with
        | nil => cases h
        | cons l rest =>
          dsimp only at h ⊢
          split at h
          case isTrue hsign =>
            rw [if_pos hsign]
            split at h
            case isTrue => cases h
            case isFalse hmore =>
              rw [if_neg hmore]
              cases hlist : Translation.filterList u fuel rest with
              | ok ps =>
                rw [hlist] at h
                cases h
              | error stop =>
                rw [hlist] at h
                cases h
                obtain ⟨done', hmem⟩ := ih hlist
                exact ⟨done', List.mem_cons_of_mem _ hmem⟩
          case isFalse hsign =>
            cases h
            rw [if_neg hsign]
            exact ⟨[], List.mem_cons_of_mem _ List.mem_cons_self⟩

theorem broken_of_list {lexemes : List Lexeme} {f : SyntaxFault}
    (h : Translation.listStatement u lexemes = .error (.fault f)) :
    ∃ done, .broken done f ∈ Grammar.statementParts u.dialect lexemes .list :=
  broken_of_filterList h

end GeoFilter
