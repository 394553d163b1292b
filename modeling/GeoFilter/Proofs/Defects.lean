import GeoFilter.Proofs.Compilation

/-!
# No defects

A `StackDefect` would be a mistake of the compiler.  No statement leads to one, in either dialect, whatever
makes the nodes of trees and resolves reference systems: every reduction finds the results that it is made
of, and a whole part leaves exactly one result, of the kind that is asked for.
-/

namespace GeoFilter

open Assembly (run step steps assemblePart assembleParts)
open ResultsStack (Settled)

variable {u : Setting} {dialect : Dialect} {kit : Toolkit}

/-! ### The work of a reading -/

theorem Realized.ne_defect {Q : α → β → ResultsStack → Prop} {r : Reading α} {s : ResultsStack}
    {said : Except Stop (β × List Lexeme)} (h : Realized u Q r s said)
    (hpermits : ∀ red, u.permits red = true) (d : StackDefect) :
    (steps u.dialect u.kit r.reductions s).result ≠ .error (.defect d) := by
  intro hdefect
  have hrun : run (steps u.dialect u.kit r.reductions) s = .error (.defect d) := by
    rw [run, hdefect]
  cases h with
  | value _ hsteps _ => rw [hsteps] at hrun; cases hrun
  | fault _ hsteps => rw [hsteps] at hrun; cases hrun
  | finding hsteps => rw [hsteps] at hrun; cases hrun
  | @refused red _ hred => rw [hpermits red] at hred; cases hred

/-- Every part of a list of filters is the reading of a filter, or has no reductions at all. -/
theorem mem_filterList (fuel : Nat) (lexemes : List Lexeme) :
    ∀ part ∈ Grammar.filterList dialect fuel lexemes,
      (∃ input, part = (Grammar.filter dialect maxNesting input).toPart) ∨ part.reductions = [] := by
  induction fuel generalizing lexemes with
  | zero => intro part hpart; cases hpart
  | succ fuel ih =>
    intro part hpart
    rw [Grammar.filterList] at hpart
    rcases hread : Grammar.filter dialect maxNesting lexemes with ⟨done, fault | ⟨a, rest⟩⟩
    · rw [hread] at hpart
      refine .inl ⟨lexemes, ?_⟩
      rw [hread, Reading.toPart]
      exact List.mem_singleton.mp hpart
    · rw [hread] at hpart
      rcases List.mem_cons.mp hpart with hfirst | hmore
      · refine .inl ⟨lexemes, ?_⟩
        rw [hread, Reading.toPart]
        exact hfirst
      · cases rest with
        | nil => cases hmore
        | cons l rest =>
          dsimp only at hmore
          split at hmore
          · split at hmore
            · cases hmore
            · exact ih rest part hmore
          · rw [List.mem_singleton.mp hmore]
            exact .inr rfl

theorem steps_ne_defect (lexemes : List Lexeme) (entry : EntryPoint) :
    ∀ part ∈ Grammar.statementParts dialect lexemes entry, ∀ d,
      (steps dialect kit part.reductions []).result ≠ .error (.defect d) := by
  intro part hpart d
  let u : Setting := ⟨dialect, kit, fun _ => true⟩
  cases entry with
  | filter =>
    rw [List.mem_singleton.mp hpart, reductions_toPart]
    exact (realizes_toEnd (u := u) (realizes_filter maxNesting ResultsStack.settled_nil) lexemes).ne_defect
      (fun _ => rfl) d
  | expression =>
    rw [List.mem_singleton.mp hpart, reductions_toPart]
    exact (realizes_toEnd (u := u) (realizes_expression maxNesting ResultsStack.settled_nil)
      lexemes).ne_defect (fun _ => rfl) d
  | list =>
    rcases mem_filterList _ lexemes part hpart with ⟨input, rfl⟩ | hnone
    · rw [reductions_toPart]
      exact (realizes_filter (u := u) maxNesting ResultsStack.settled_nil input).ne_defect
        (fun _ => rfl) d
    · rw [hnone]
      intro hdefect
      cases hdefect

/-! ### The result of a part -/

/-- Whether a tree is that of the only result which the reductions of a whole part leave. -/
def Leaves (dialect : Dialect) (kit : Toolkit) (toTree : Entry → Except StackDefect α)
    (part : StatementPart) (tree : α) : Prop :=
  ∃ reductions e, part = .whole reductions ∧ run (steps dialect kit reductions) [] = .ok ((), [e]) ∧
    toTree e = .ok tree

theorem root_eq_ok {s : ResultsStack} {e : Entry} (h : s.root = .ok e) : s = [e] := by
  rcases s with _ | ⟨e', _ | ⟨e'', s⟩⟩
  · cases h
  · cases h
    rfl
  · cases h

theorem run_assemblePart_eq_ok {atEnd : SourceToken} {part : StatementPart} {e : Entry} {s : ResultsStack}
    (h : run (assemblePart dialect kit atEnd part) [] = .ok (e, s)) :
    ∃ reductions, part = .whole reductions ∧ run (steps dialect kit reductions) [] = .ok ((), [e]) := by
  cases part with
  | broken reductions fault =>
    rw [assemblePart, Assembly.run_bind] at h
    split at h
    · cases h
    · cases h
  | whole reductions =>
    refine ⟨reductions, rfl, ?_⟩
    rw [assemblePart, Assembly.run_bind] at h
    split at h
    case h_2 => cases h
    case h_1 s' hsteps =>
      rw [hsteps]
      unfold run Assembly.finish at h
      cases hroot : s'.root with
      | error d =>
        rw [hroot] at h
        cases h
      | ok e' =>
        rw [hroot] at h
        cases h
        rw [root_eq_ok hroot]

theorem leaves_of_assembleParts {atEnd : SourceToken} {toTree : Entry → Except StackDefect α}
    {parts : List StatementPart} {es : List Entry} {trees : List α}
    (hes : (assembleParts dialect kit atEnd parts).1 = .ok es)
    (htrees : Compiler.treesOf toTree es = .ok trees) :
    List.Forall₂ (Leaves dialect kit toTree) parts trees := by
  induction parts generalizing es trees with
  | nil =>
    cases hes
    cases htrees
    exact .nil
  | cons part parts ih =>
    rw [assembleParts_cons] at hes
    split at hes
    case h_2 => cases hes
    case h_1 e s hpart =>
      obtain ⟨reductions, rfl, hsteps⟩ := run_assemblePart_eq_ok hpart
      cases hmore : (assembleParts dialect kit atEnd parts).1 with
      | error fault =>
        rw [hmore] at hes
        cases hes
      | ok more =>
        rw [hmore] at hes
        cases hes
        rw [Compiler.treesOf] at htrees
        cases htree : toTree e with
        | error d =>
          rw [htree] at htrees
          cases htrees
        | ok tree =>
          rw [htree] at htrees
          cases hrest : Compiler.treesOf toTree more with
          | error fault =>
            rw [hrest] at htrees
            cases htrees
          | ok rest =>
            rw [hrest] at htrees
            cases htrees
            exact .cons ⟨reductions, e, rfl, hsteps, htree⟩ (ih hmore hrest)

/-- Whether some trees are those that the parts of a statement leave, one for each of them. -/
def Compiler.Builds (compiler : Compiler) (entry : EntryPoint) (toTree : Entry → Except StackDefect α)
    (statement : String) (trees : List α) : Prop :=
  ∃ lexemes, scan statement = .ok lexemes ∧
    List.Forall₂ (Leaves compiler.dialect compiler.toolkit toTree)
      (Grammar.statementParts compiler.dialect lexemes entry) trees

theorem builds_of_compile {compiler : Compiler} {entry : EntryPoint}
    {toTree : Entry → Except StackDefect α} {statement : String} {trees : List α}
    (h : (compiler.compile entry toTree statement).result = .ok trees) :
    compiler.Builds entry toTree statement trees := by
  cases hscan : scan statement with
  | error f =>
    rw [compile_unscannable compiler entry toTree hscan] at h
    cases h
  | ok lexemes =>
    refine ⟨lexemes, hscan, ?_⟩
    rw [compile_result compiler entry toTree hscan] at h
    cases hes : (compiler.assemble entry (Compiler.endToken statement) lexemes).1 with
    | error fault =>
      rw [hes] at h
      cases h
    | ok es =>
      rw [hes, Except.bind] at h
      cases htrees : Compiler.treesOf toTree es with
      | error fault =>
        rw [htrees] at h
        cases h
      | ok trees' =>
        rw [htrees] at h
        cases h
        exact leaves_of_assembleParts hes htrees

theorem Reports.tree_or_finding {statement : String} {parts : List StatementPart}
    {result : Except CompileFailure α} {said : Except Stop α} {compiler : Compiler}
    (h : Reports statement (UnpermittedIn compiler.setting parts) result said) :
    (∃ tree, result = .ok tree) ∨ ∃ error, result = .error (.error error) := by
  cases h with
  | value h => exact .inl ⟨_, h⟩
  | fault h => exact .inr ⟨_, h⟩
  | finding h => exact .inr ⟨_, h⟩
  | refused h => cases h.2

/-- **No statement leads to a defect.**  For every compiler, whatever its factory and its resolver, and
every entry point, what comes of a statement is an error in the statement or a tree: of every part the tree
of the only entry that its reductions leave on the stack.  No reduction on the way meets a defect. -/
theorem tree_or_error (compiler : Compiler) (statement : String) :
    ((∃ p, (compiler.compileFilter statement).result = .ok p ∧
        compiler.Builds .filter Entry.toPredicate statement [p]) ∨
      ∃ error, (compiler.compileFilter statement).result = .error (.error error)) ∧
    ((∃ x, (compiler.compileExpression statement).result = .ok x ∧
        compiler.Builds .expression Entry.toExpression statement [x]) ∨
      ∃ error, (compiler.compileExpression statement).result = .error (.error error)) ∧
    ((∃ ps, (compiler.compileFilterList statement).result = .ok ps ∧
        compiler.Builds .list Entry.toPredicate statement ps) ∨
      ∃ error, (compiler.compileFilterList statement).result = .error (.error error)) ∧
    ∀ lexemes entry, ∀ part ∈ Grammar.statementParts compiler.dialect lexemes entry, ∀ d,
      (steps compiler.dialect compiler.toolkit part.reductions []).result ≠ .error (.defect d) := by
  refine ⟨?_, ?_, ?_, fun lexemes entry => steps_ne_defect lexemes entry⟩
  · cases hscan : scan statement with
    | error f => exact .inr ⟨_, single_of_error (compile_unscannable compiler _ _ hscan)⟩
    | ok lexemes =>
      rcases (compileFilter_reports (u := compiler.setting) hscan).tree_or_finding with ⟨p, h⟩ | h
      · exact .inl ⟨p, h, builds_of_compile (single_eq_ok h)⟩
      · exact .inr h
  · cases hscan : scan statement with
    | error f => exact .inr ⟨_, single_of_error (compile_unscannable compiler _ _ hscan)⟩
    | ok lexemes =>
      rcases (compileExpression_reports (u := compiler.setting) hscan).tree_or_finding with ⟨x, h⟩ | h
      · exact .inl ⟨x, h, builds_of_compile (single_eq_ok h)⟩
      · exact .inr h
  · cases hscan : scan statement with
    | error f => exact .inr ⟨_, compile_unscannable compiler _ _ hscan⟩
    | ok lexemes =>
      rcases (compileFilterList_reports (u := compiler.setting) hscan).tree_or_finding with ⟨ps, h⟩ | h
      · exact .inl ⟨ps, h, builds_of_compile h⟩
      · exact .inr h

end GeoFilter
