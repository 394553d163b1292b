import GeoFilter.Proofs.NumberKind.Statement
import GeoFilter.Proofs.Tokenizer

/-!
# Where errors point

A place in a statement is that of a character in one of its lines, or right behind a line.  An error of a statement that
was scanned is at the place of one of its lexemes or at the end, so its caret stands under the first character of the
lexeme, or behind the last line.
-/

namespace GeoFilter

open Scan (Standing)

/-! ### Lines -/

theorem textLines_cons {c : Char} {cs : List Char} (hfeed : c ≠ '\n') (hreturn : c = '\r' → cs.head? ≠ some '\n') :
    textLines (c :: cs) =
      match textLines cs with
      | [] => [[c]]
      | line :: more => (c :: line) :: more := by
  refine textLines.eq_4 c cs hfeed ?_
  rintro cs' rfl rfl
  exact hreturn rfl rfl

theorem textLines_return {cs : List Char} (h : cs.head? = some '\n') : textLines ('\r' :: cs) = textLines cs := by
  obtain ⟨cs, rfl⟩ := List.head?_eq_some_iff.mp h
  rw [textLines, textLines]

/-- A character that ends no line stands in a line of the text, where the characters in front of it in the line end. -/
theorem exists_line_of_character (p : Place) (before : List Char) {c : Char} (hc : c ≠ '\n' ∧ c ≠ '\r')
    (behind : List Char) :
    ∃ n left right, (textLines (before ++ c :: behind))[n]? = some (left ++ c :: right) ∧
      p.after before = ⟨p.line + n, (if n = 0 then p.column else 1) + left.length⟩ := by
  induction before generalizing p with
  | nil =>
    rw [List.nil_append, textLines_cons hc.1 fun h => absurd h hc.2]
    split
    · exact ⟨0, [], [], rfl, rfl⟩
    · exact ⟨0, [], _, rfl, rfl⟩
  | cons d before ih =>
    obtain ⟨n, left, right, hline, hplace⟩ := ih (p.next d)
    have hafter : p.after (d :: before) = (p.next d).after before := rfl
    rw [List.cons_append, hafter, hplace]
    by_cases hfeed : d = '\n'
    · subst hfeed
      refine ⟨n + 1, left, right, by rw [textLines]; exact hline, ?_⟩
      simp [Place.next, Nat.add_right_comm, Nat.add_assoc]
    rw [Place.next, if_neg hfeed]
    by_cases hreturn : d = '\r' ∧ (before ++ c :: behind).head? = some '\n'
    · obtain ⟨rfl, hhead⟩ := hreturn
      -- The line feed behind the carriage return ends the first line, so the character stands in a later one.
      have hn : n ≠ 0 := by
        rintro rfl
        obtain ⟨cs, hcs⟩ := List.head?_eq_some_iff.mp hhead
        rw [hcs, textLines] at hline
        exact absurd (Option.some.inj hline) (by simp)
      refine ⟨n, left, right, by rw [textLines_return hhead]; exact hline, ?_⟩
      rw [if_neg hn, if_neg hn]
    rw [textLines_cons hfeed fun hd => by simpa [hd] using hreturn]
    cases hlines : textLines (before ++ c :: behind) with
    | nil =>
      rw [hlines] at hline
      cases hline
    | cons line more =>
      rw [hlines] at hline
      cases n with
      | zero =>
        obtain rfl := Option.some.inj hline
        refine ⟨0, d :: left, right, rfl, ?_⟩
        simp [Nat.add_assoc, Nat.add_comm 1]
      | succ n => exact ⟨n + 1, left, right, hline, by simp⟩

/-! ### Places in lines -/

/-- Whether a place is in a line of a text, or in the first line of an empty one, with some characters of the line in front
of it and the others behind. -/
structure Place.InLine (p : Place) (text left right : List Char) : Prop where
  first : 1 ≤ p.line
  last : p.line ≤ max (textLines text).length 1
  line : (textLines text)[p.line - 1]?.getD [] = left ++ right
  column : p.column = left.length + 1

theorem Scan.Standing.inLine {text : List Char} {l : Lexeme} (s : Standing Place.start text l) :
    ∃ left right, l.place.InLine text left (s.first :: right) := by
  obtain ⟨n, left, right, hline, hplace⟩ := exists_line_of_character Place.start s.before s.first_ne s.behind
  rw [← s.text_eq] at hline
  rw [← s.place_eq] at hplace
  have hlast : n < (textLines text).length := (List.getElem?_eq_some_iff.mp hline).1
  refine ⟨left, right, ?_⟩
  rw [hplace]
  exact {
    first := Nat.le_add_right 1 n
    last := by
      dsimp only [Place.start]
      omega
    line := by
      dsimp only [Place.start]
      rw [Nat.add_sub_cancel_left, hline, Option.getD_some]
    column := by
      dsimp only [Place.start]
      rw [ite_self, Nat.add_comm] }

theorem endPlace_inLine (statement : String) :
    ∃ left, (endPlace statement).InLine statement.toList left [] := by
  have hlast : ∀ lines : List (List Char), lines[max lines.length 1 - 1]?.getD [] = lines.getLastD [] := by
    rintro (_ | ⟨line, more⟩)
    · rfl
    · rw [List.getLastD_eq_getLast?, List.getLast?_eq_getElem?, Nat.max_eq_left (by simp)]
  exact ⟨_, Nat.le_max_right _ _, Nat.le_refl _, (hlast _).trans (List.append_nil _).symm, rfl⟩

theorem CompileError.caret_of_inLine {e : CompileError} {left right : List Char}
    (h : e.token.place.InLine e.statement.toList left right) :
    e.caret = String.ofList (left ++ right ++ '\n' :: List.replicate left.length ' ' ++ ['^']) := by
  rw [CompileError.caret, h.line, h.column, Nat.add_sub_cancel]

/-! ### Errors of statements -/

theorem statement_of_compile {compiler : Compiler} {entry : EntryPoint} {toTree : Entry → Except StackDefect α}
    {statement : String} {L : List Lexeme} (hscan : scan statement = .ok L) {e : CompileError}
    (h : (compiler.compile entry toTree statement).result = .error (.error e)) : e.statement = statement := by
  rw [compile_result compiler entry toTree hscan] at h
  generalize (compiler.assemble entry (Compiler.endToken statement) L).1.bind (Compiler.treesOf toTree) = result at h
  rcases result with (f | defect) | trees <;> cases h
  rfl

theorem Finding.ArisesIn.placed {L : List Lexeme} {statement : String} {f : Finding}
    (h : f.ArisesIn L (Compiler.endToken statement)) :
    Placed L f.token ∨ f.token.place = endPlace statement := by
  rcases h with h | ⟨fault, hfault, rfl⟩
  · exact .inl h.placed
  · cases fault with
    | unexpected expected token => exact .inl hfault
    | endReached expected => exact .inr rfl
    | tooDeep opener => exact .inl hfault

/-- **Errors point into the statement**, in each dialect and at each entry point, unless the statement cannot be scanned.
The place of the error's token is that of a lexeme or of the end of the statement; it is in a line of the statement, or
in the first one of an empty statement, with the characters of the line that are left of it.  Rendered with a caret, the
error shows that line and, under the first character of the lexeme or behind the line, the caret. -/
theorem error_points_into_statement {compiler : Compiler} {statement : String} {e : CompileError}
    (h : compiler.FailsWith statement e) (hscannable : ∀ message, e.fault ≠ .unscannable message) :
    ∃ L left right, scan statement = .ok L ∧ e.token.place.InLine statement.toList left right ∧
      ((∃ l ∈ L, ∃ s : Standing Place.start statement.toList l, e.token.place = l.place ∧ right.head? = some s.first) ∨
        e.token.place = endPlace statement ∧ right = []) ∧
      e.caret = String.ofList (left ++ right ++ '\n' :: List.replicate left.length ' ' ++ ['^']) := by
  obtain ⟨β, entry, toTree, h⟩ := h.exists_compile
  cases hscan : scan statement with
  | error f =>
    rw [compile_unscannable compiler entry toTree hscan] at h
    cases h
    unfold scan at hscan
    split at hscan <;> cases hscan
    exact absurd rfl (hscannable _)
  | ok L =>
    have hstatement := statement_of_compile hscan h
    have hcaret : ∀ {left right : List Char}, e.token.place.InLine statement.toList left right →
        e.caret = String.ofList (left ++ right ++ '\n' :: List.replicate left.length ' ' ++ ['^']) :=
      fun hline => CompileError.caret_of_inLine (hstatement ▸ hline)
    rcases (arisesIn_of_compile hscan h).placed with ⟨l, hl, hplace⟩ | hplace
    · obtain ⟨s⟩ := standing_of_scan hscan hl
      obtain ⟨left, right, hline⟩ := s.inLine
      rw [← hplace] at hline
      exact ⟨_, left, s.first :: right, rfl, hline, .inl ⟨l, hl, s, hplace, rfl⟩, hcaret hline⟩
    · obtain ⟨left, hline⟩ := endPlace_inLine statement
      rw [← hplace] at hline
      exact ⟨L, left, [], rfl, hline, .inr ⟨hplace, rfl⟩, hcaret hline⟩

/-- A second attribute where an operator is expected, in the second line. -/
theorem error_points_into_second_line :
    let compiler : Compiler := ⟨.ecql, ⟨.plain, CrsRegistry.wellKnown.resolver⟩⟩
    let statement := "a = 1 AND\r\n b c"
    let e : CompileError := ⟨.unexpected "a comparison operator" ⟨"c", ⟨2, 4⟩⟩, statement⟩
    (compiler.compileFilter statement).result = .error (.error e) ∧
      ∃ L left right, scan statement = .ok L ∧ e.token.place.InLine statement.toList left right ∧
        ((∃ l ∈ L, ∃ s : Standing Place.start statement.toList l, e.token.place = l.place ∧
            right.head? = some s.first) ∨
          e.token.place = endPlace statement ∧ right = []) ∧
        e.caret = String.ofList (left ++ right ++ '\n' :: List.replicate left.length ' ' ++ ['^']) := by
  intro compiler statement e
  have herror : (compiler.compileFilter statement).result = .error (.error e) :=
    eq_error_of_errorOf? (by decide +kernel)
  exact ⟨herror, error_points_into_statement (.inl herror) nofun⟩

end GeoFilter
