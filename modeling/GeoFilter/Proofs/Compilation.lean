import GeoFilter.Compiler
import GeoFilter.Proofs.Realization.Statement

/-!
# What compilers answer

A compilation answers what the translation of its statement says, and so it never answers a defect: a tree
is that of the only result which the reductions of its part leave, and everything else is an error in the
statement.
-/

namespace GeoFilter

open Assembly (run step steps assemblePart assembleParts)

def Setting.compiler (u : Setting) : Compiler := ⟨u.dialect, u.kit⟩

/-- The setting of a compiler, in which every reduction is permitted. -/
def Compiler.setting (compiler : Compiler) : Setting := { compiler with kit := compiler.toolkit }

/-- What a compilation answers, against what a translation says.  `Unpermitted` tells which reductions may be
refused. -/
inductive Reports (statement : String) (Unpermitted : Reduction → Prop) (result : Except CompileFailure α) :
    Except Stop α → Prop
  | value {a : α} (h : result = .ok a) : Reports statement Unpermitted result (.ok a)
  | fault {f : SyntaxFault}
      (h : result = .error (.error ((f.toFinding (Compiler.endToken statement)).inStatement statement))) :
      Reports statement Unpermitted result (.error (.fault f))
  | finding {f : Finding} (h : result = .error (.error (f.inStatement statement))) :
      Reports statement Unpermitted result (.error (.finding f))
  | refused {red : Reduction} (h : Unpermitted red) :
      Reports statement Unpermitted result (.error (.refused red))

theorem Reports.eq_ok {statement : String} {Unpermitted : Reduction → Prop} {result : Except CompileFailure α}
    {said : Except Stop α} (h : Reports statement Unpermitted result said) (hnone : ∀ red, ¬Unpermitted red)
    {a : α} (ha : result = .ok a) : said = .ok a := by
  cases h with
  | value h =>
    cases h.symm.trans ha
    rfl
  | fault h => cases h.symm.trans ha
  | finding h => cases h.symm.trans ha
  | refused h => exact absurd h (hnone _)

theorem Reports.of_ok {statement : String} {Unpermitted : Reduction → Prop} {result : Except CompileFailure α}
    {a : α} (h : Reports statement Unpermitted result (.ok a)) : result = .ok a := by
  cases h with
  | value h => exact h

/-- A reduction of some part of a statement that a setting does not permit. -/
def UnpermittedIn (u : Setting) (parts : List StatementPart) (red : Reduction) : Prop :=
  (∃ part ∈ parts, red ∈ part.reductions) ∧ u.permits red = false

theorem not_unpermittedIn {u : Setting} (h : ∀ red, u.permits red = true) (parts : List StatementPart)
    (red : Reduction) : ¬UnpermittedIn u parts red := by
  intro hred
  have hpermit := h red
  rw [hred.2] at hpermit
  cases hpermit

variable {u : Setting} {statement : String} {lexemes : List Lexeme}

def errorOf? : Except CompileFailure α → Option CompileError
  | .error (.error e) => some e
  | _ => none

theorem eq_error_of_errorOf? {result : Except CompileFailure α} {e : CompileError} (h : errorOf? result = some e) :
    result = .error (.error e) := by
  unfold errorOf? at h
  split at h <;> cases h
  rfl

/-! ### Answers of compilations -/

theorem treesOf_eq {R : α → Entry → Prop} {toTree : Entry → Except StackDefect α}
    (hR : ∀ a e, R a e → toTree e = .ok a) {trees : List α} {es : List Entry}
    (hes : List.Forall₂ R trees es) : Compiler.treesOf toTree es = .ok trees := by
  induction hes with
  | nil => rfl
  | cons he _ ih =>
    rw [Compiler.treesOf, hR _ _ he, ih]
    rfl

/-- Where every reduction is permitted, the trees of some parts are those that the translation says. -/
theorem Answers.trees_eq_ok {R : α → Entry → Prop} {atEnd : SourceToken} {parts : List StatementPart}
    {said : Except Stop (List α)} (h : Answers u R atEnd parts said) (hpermits : ∀ red, u.permits red = true)
    {toTree : Entry → Except StackDefect α} (hR : ∀ a e, R a e → toTree e = .ok a) {trees : List α} :
    (assembleParts u.dialect u.kit atEnd parts).1.bind (Compiler.treesOf toTree) = .ok trees ↔
      said = .ok trees := by
  cases h with
  | value hresult hes =>
    rw [hresult, Except.bind, treesOf_eq hR hes, Except.ok.injEq, Except.ok.injEq]
  | fault hresult =>
    rw [hresult]
    exact iff_of_false nofun nofun
  | finding hresult =>
    rw [hresult]
    exact iff_of_false nofun nofun
  | refused _ _ hred =>
    rw [hpermits] at hred
    cases hred

theorem compile_result (compiler : Compiler) (entry : EntryPoint)
    (toTree : Entry → Except StackDefect α) (hscan : scan statement = .ok lexemes) :
    (compiler.compile entry toTree statement).result =
      ((compiler.assemble entry (Compiler.endToken statement) lexemes).1.bind
        (Compiler.treesOf toTree)).mapError (AssemblyFault.inStatement statement) := by
  simp only [Compiler.compile, Compiler.roots, hscan]
  cases (compiler.assemble entry (Compiler.endToken statement) lexemes).1 <;> rfl

theorem compile_unscannable (compiler : Compiler) (entry : EntryPoint)
    (toTree : Entry → Except StackDefect α) {f : Finding} (hscan : scan statement = .error f) :
    (compiler.compile entry toTree statement).result = .error (.error (f.inStatement statement)) := by
  simp only [Compiler.compile, Compiler.roots, hscan]
  rfl

theorem scan_of_compiled {compiler : Compiler} {entry : EntryPoint} {toTree : Entry → Except StackDefect α}
    {trees : List α} (h : (compiler.compile entry toTree statement).result = .ok trees) :
    ∃ lexemes, scan statement = .ok lexemes := by
  cases hscan : scan statement with
  | ok lexemes => exact ⟨lexemes, rfl⟩
  | error f =>
    rw [compile_unscannable compiler entry toTree hscan] at h
    cases h

theorem Answers.reports {R : α → Entry → Prop} {entry : EntryPoint} {said : Except Stop (List α)}
    (h : Answers u R (Compiler.endToken statement) (Grammar.statementParts u.dialect lexemes entry) said)
    {toTree : Entry → Except StackDefect α} (hR : ∀ a e, R a e → toTree e = .ok a)
    (hscan : scan statement = .ok lexemes) :
    Reports statement (UnpermittedIn u (Grammar.statementParts u.dialect lexemes entry))
      (u.compiler.compile entry toTree statement).result said := by
  have hcompile := compile_result u.compiler entry toTree hscan
  change _ = (Except.bind (assembleParts u.dialect u.kit _
    (Grammar.statementParts u.dialect lexemes entry)).1 _).mapError _ at hcompile
  cases h with
  | value hresult hes =>
    rw [hresult, Except.bind, treesOf_eq hR hes] at hcompile
    exact .value hcompile
  | fault hresult =>
    rw [hresult] at hcompile
    exact .fault hcompile
  | finding hresult =>
    rw [hresult] at hcompile
    exact .finding hcompile
  | refused hpart hmem hred => exact .refused ⟨⟨_, hpart, hmem⟩, hred⟩

theorem single_of_error {c : Compilation (List α)} {failure : CompileFailure}
    (h : c.result = .error failure) : (Compiler.single c).result = .error failure := by
  simp [Compiler.single, h]

theorem single_eq_ok {c : Compilation (List α)} {tree : α} (h : (Compiler.single c).result = .ok tree) :
    c.result = .ok [tree] := by
  rw [Compiler.single] at h
  dsimp only at h
  split at h
  · cases h
    assumption
  · cases h
  · cases h

theorem Reports.single {Unpermitted : Reduction → Prop} {c : Compilation (List α)}
    {said : Except Stop (α × List Lexeme)}
    (h : Reports statement Unpermitted c.result (said.map fun x => [x.1])) :
    Reports statement Unpermitted (Compiler.single c).result (said.map Prod.fst) := by
  rcases said with stop | x
  · cases h with
    | fault h => exact .fault (single_of_error h)
    | finding h => exact .finding (single_of_error h)
    | refused h => exact .refused h
  · cases h with
    | value h => exact .value (by simp [Compiler.single, h])

theorem HoldsPredicate.toPredicate {p : Predicate} {e : Entry} (h : HoldsPredicate p e) :
    e.toPredicate = .ok p := by
  rw [Entry.toPredicate, h.1]

theorem HoldsOperand.toExpression {x : Expression} {e : Entry} (h : HoldsOperand x e) :
    e.toExpression = .ok x := by
  rw [Entry.toExpression, h.1]

/-- A value up to the end of a statement is a value behind which nothing is left. -/
theorem toEnd_eq_ok {body : Translation α} {a : α} :
    (Translation.toEnd body lexemes).map Prod.fst = .ok a ↔ body lexemes = .ok (a, []) := by
  have hread : Translation.toEnd body lexemes =
      match body lexemes with
      | .ok (a, []) => .ok (a, [])
      | .ok (_, l :: _) => .error (.fault (.unexpected "end of statement" l.source))
      | .error stop => .error stop := by
    change Translation.bind body _ lexemes = _
    unfold Translation.bind
    rcases body lexemes with stop | ⟨a, _ | ⟨l, rest⟩⟩ <;> rfl
  rw [hread]
  rcases body lexemes with stop | ⟨a, _ | ⟨l, rest⟩⟩ <;> simp [Except.map]

theorem compileFilter_reports (hscan : scan statement = .ok lexemes) :
    Reports statement (UnpermittedIn u (Grammar.statementParts u.dialect lexemes .filter))
      (u.compiler.compileFilter statement).result
      ((Translation.filterStatement u lexemes).map Prod.fst) :=
  .single ((answers_filter lexemes).reports (fun _ _ h => h.toPredicate) hscan)

theorem compileExpression_reports (hscan : scan statement = .ok lexemes) :
    Reports statement (UnpermittedIn u (Grammar.statementParts u.dialect lexemes .expression))
      (u.compiler.compileExpression statement).result
      ((Translation.expressionStatement u lexemes).map Prod.fst) :=
  .single ((answers_expression lexemes).reports (fun _ _ h => h.toExpression) hscan)

theorem compileFilterList_reports (hscan : scan statement = .ok lexemes) :
    Reports statement (UnpermittedIn u (Grammar.statementParts u.dialect lexemes .list))
      (u.compiler.compileFilterList statement).result (Translation.listStatement u lexemes) :=
  (answers_list lexemes).reports (fun _ _ h => h.toPredicate) hscan

end GeoFilter
