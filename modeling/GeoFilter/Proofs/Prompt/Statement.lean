import GeoFilter.Proofs.Parallel.Statement
import GeoFilter.Proofs.Prompt.Filter
import GeoFilter.Proofs.Tokenizer

/-!
# Faults in statements

An error in the syntax of a statement is decided by the text up to it: other statements that start with the same lexemes
up to behind the token of the error come to the same error.
-/

namespace GeoFilter

open Translation (read)

variable {u : Setting}

theorem prompt_statementEnd : Prompt [] (read Grammar.statementEnd) where
  suffix := by
    rintro (_ | ⟨l, input⟩) a rest h <;> cases h
    exact List.suffix_rfl
  keeps := by
    intro input rest tail tail' a htwo h
    cases hinput : input ++ tail with
    | nil =>
      rw [hinput] at h
      obtain ⟨_, hrest⟩ := Prod.mk.inj (Except.ok.inj h)
      obtain ⟨rfl, _⟩ := List.append_eq_nil_iff.mp hrest.symm
      cases htwo
    | cons l ls =>
      rw [hinput] at h
      cases h
  faults := by
    rintro (_ | ⟨l, input⟩) fault h <;> cases h
    refine .inr ⟨[], l, input, rfl, .unexpected _, fun y _ input' hbegins => ?_⟩
    obtain ⟨tail', rfl⟩ := hbegins
    rfl
  findings _ _ := Prompt.read_ne_finding

theorem prompt_filterStatement : Prompt [] (Translation.filterStatement u) :=
  (prompt_filter maxNesting).bind fun _ => prompt_statementEnd.map _

theorem SyntaxFault.At.toFinding_token {token : SourceToken} {f : SyntaxFault} (h : f.At token) (atEnd : SourceToken) :
    (f.toFinding atEnd).token = token := by
  cases h <;> rfl

/-- The finding of a fault that is found at a token does not depend on the end of the statement. -/
theorem SyntaxFault.At.toFinding_eq {token : SourceToken} {f : SyntaxFault} (h : f.At token)
    (atEnd atEnd' : SourceToken) : f.toFinding atEnd = f.toFinding atEnd' := by
  cases h <;> rfl

variable {compiler : Compiler} {statement statement' : String} {L L' : List Lexeme}

theorem fault_of_syntactic (hscan : scan statement = .ok L) {e : CompileError}
    (herror : (compiler.compileFilter statement).result = .error (.error e)) (hsyntactic : e.fault.isSyntactic = true) :
    ∃ f : SyntaxFault, Translation.filterStatement compiler.setting L = .error (.fault f) ∧
      e = (f.toFinding (Compiler.endToken statement)).inStatement statement := by
  have hanswer : (compiler.compileFilter statement).result = _ :=
    compileFilter_eq (u := compiler.setting) (fun _ => rfl) hscan
  rw [hanswer] at herror
  cases hsaid : Translation.filterStatement compiler.setting L with
  | ok value =>
    rw [hsaid] at herror
    cases herror
  | error stop =>
    rw [hsaid] at herror
    cases stop with
    | fault f =>
      cases herror
      exact ⟨f, rfl, rfl⟩
    | finding f =>
      cases herror
      have hfinding := prompt_filterStatement.findings L f hsaid
      cases hfinding.symm.trans hsyntactic
    | refused r => cases herror

theorem compileFilter_of_fault (hscan : scan statement = .ok L) {f : SyntaxFault}
    (hfault : Translation.filterStatement compiler.setting L = .error (.fault f)) :
    (compiler.compileFilter statement).result =
      .error (.error ((f.toFinding (Compiler.endToken statement)).inStatement statement)) := by
  have hanswer : (compiler.compileFilter statement).result = _ :=
    compileFilter_eq (u := compiler.setting) (fun _ => rfl) hscan
  rw [hanswer, hfault]
  rfl

/-- **Errors in the syntax are decided by the text up to them.**  If the syntax of a statement is wrong at its lexeme
`k`, which is not the last one, then every statement with the same lexemes up to `k + 1` is answered with the same
error at the same token. -/
theorem syntaxError_of_front (hscan : scan statement = .ok L) (hscan' : scan statement' = .ok L') {k : Nat} {l : Lexeme}
    (hl : L[k]? = some l) (hk : k + 1 < L.length) {e : CompileError}
    (herror : (compiler.compileFilter statement).result = .error (.error e)) (hsyntactic : e.fault.isSyntactic = true)
    (htoken : e.token = l.source) (hfront : L'.take (k + 2) = L.take (k + 2)) :
    (compiler.compileFilter statement').result = .error (.error (e.toFinding.inStatement statement')) := by
  obtain ⟨f, hfault, rfl⟩ := fault_of_syntactic hscan herror hsyntactic
  rcases prompt_filterStatement.faults L f hfault with ⟨expected, rfl⟩ | ⟨done, x, rest, hL, hat, hsame⟩
  · cases hsyntactic
  obtain rfl : L = done ++ x :: rest := hL
  -- no other lexeme stands at the place of the error
  have hplace : x.place = l.place := congrArg SourceToken.place ((hat.toFinding_token _).symm.trans htoken)
  have hindex : done.length = k := by
    have hbound : done.length < ((done ++ x :: rest).map Lexeme.place).length := by simp
    apply (List.getElem?_inj hbound (nodup_places hscan)).mp
    rw [List.getElem?_map, List.getElem?_map, hl]
    simp [hplace]
  subst hindex
  obtain ⟨y, more, rfl⟩ : ∃ y more, rest = y :: more := by
    cases rest with
    | nil => simp at hk
    | cons y more => exact ⟨y, more, rfl⟩
  have htake : (done ++ x :: y :: more).take (done.length + 2) = done ++ [x, y] := by
    rw [List.take_length_add_append]
    rfl
  have hbegins : done ++ [x, y] <+: [] ++ L' := by
    rw [List.nil_append, ← htake, ← hfront]
    exact List.take_prefix _ _
  rw [compileFilter_of_fault hscan' (hsame y rfl L' hbegins), hat.toFinding_eq _ (Compiler.endToken statement)]
  rfl

theorem syntaxError_of_front_comparison :
    ∃ L L' l e, scan "a = = 1 AND b = 2" = .ok L ∧ scan "a = = 1 ) 'x'" = .ok L' ∧ L[2]? = some l ∧ 2 + 1 < L.length ∧
      ((⟨.ecql, ⟨.plain, CrsRegistry.wellKnown.resolver⟩⟩ : Compiler).compileFilter "a = = 1 AND b = 2").result =
        .error (.error e) ∧ e.fault.isSyntactic = true ∧ e.token = l.source ∧ L'.take (2 + 2) = L.take (2 + 2) ∧
      ((⟨.ecql, ⟨.plain, CrsRegistry.wellKnown.resolver⟩⟩ : Compiler).compileFilter "a = = 1 ) 'x'").result =
        .error (.error (e.toFinding.inStatement "a = = 1 ) 'x'")) := by
  let L := (scan "a = = 1 AND b = 2").toOption.getD []
  let L' := (scan "a = = 1 ) 'x'").toOption.getD []
  let l : Lexeme := ⟨.sign .equal, ⟨1, 5⟩⟩
  let e : CompileError := (Finding.unexpected "an expression" l.source).inStatement "a = = 1 AND b = 2"
  have hscan : scan "a = = 1 AND b = 2" = .ok L := by decide +kernel
  have hscan' : scan "a = = 1 ) 'x'" = .ok L' := by decide +kernel
  have hl : L[2]? = some l := by decide +kernel
  have hk : 2 + 1 < L.length := by decide +kernel
  have herror : ((⟨.ecql, ⟨.plain, CrsRegistry.wellKnown.resolver⟩⟩ : Compiler).compileFilter
      "a = = 1 AND b = 2").result = .error (.error e) := eq_error_of_errorOf? (by decide +kernel)
  have hfront : L'.take (2 + 2) = L.take (2 + 2) := by decide +kernel
  exact ⟨L, L', l, e, hscan, hscan', hl, hk, herror, rfl, rfl, hfront,
    syntaxError_of_front hscan hscan' hl hk herror rfl rfl hfront⟩

end GeoFilter
