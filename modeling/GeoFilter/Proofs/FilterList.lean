import GeoFilter.Proofs.Compilation
import GeoFilter.Proofs.Framing.Filter

/-!
# Lists of filters

A compiler makes a list of predicates of exactly those lexemes that are filters with semicolons between them,
each of which it makes its predicate of alone.  A semicolon behind the first filter always separates, and one
inside a filter never does, because no filter that ends before a semicolon is the start of a longer one.
-/

namespace GeoFilter

open Assembly (assembleParts)

/-- Lexemes that are some parts with semicolons between them and perhaps one more behind the last part. -/
inductive Separated : List (List Lexeme) → List Lexeme → Prop
  | last (part : List Lexeme) : Separated [part] part
  | ended (part : List Lexeme) {l : Lexeme} (hl : l.token = .sign .semicolon) :
      Separated [part] (part ++ [l])
  | more (part : List Lexeme) {l : Lexeme} {parts : List (List Lexeme)} {rest : List Lexeme}
      (hl : l.token = .sign .semicolon) (hrest : Separated parts rest) :
      Separated (part :: parts) (part ++ l :: rest)

/-- The predicates that a compiler makes of some lexemes, or why it makes none. -/
def Compiler.predicates (compiler : Compiler) (entry : EntryPoint) (atEnd : SourceToken)
    (lexemes : List Lexeme) : Except AssemblyFault (List Predicate) :=
  (compiler.assemble entry atEnd lexemes).1.bind (Compiler.treesOf Entry.toPredicate)

/-- Whether a compiler makes some predicates of some lexemes, whatever stands for their end. -/
def Compiler.Makes (compiler : Compiler) (entry : EntryPoint) (lexemes : List Lexeme)
    (ps : List Predicate) : Prop :=
  ∀ atEnd, compiler.predicates entry atEnd lexemes = .ok ps

variable {u : Setting} {p q : Predicate}

/-! ### Filters before a semicolon -/

theorem ends_semicolon {l : Lexeme} (hl : l.token = .sign .semicolon) (rest : List Lexeme) :
    Ends Token.endsFilter (l :: rest) :=
  ends_cons (by rw [hl]; rfl) rest

theorem filter_before {part tail : List Lexeme} (htail : Ends Token.endsFilter tail)
    (h : Translation.filter u maxNesting part = .ok (p, [])) :
    Translation.filter u maxNesting (part ++ tail) = .ok (p, tail) := by
  rw [← List.append_nil part] at h
  exact (solid_filter (Nat.le_refl maxNesting)).frame part [] tail p (.ends ends_nil htail) h

theorem filter_alone {part tail : List Lexeme} (htail : Ends Token.endsFilter tail)
    (h : Translation.filter u maxNesting (part ++ tail) = .ok (p, tail)) :
    Translation.filter u maxNesting part = .ok (p, []) := by
  have halone := (solid_filter (Nat.le_refl maxNesting)).frame part tail [] p (.ends htail ends_nil) h
  rwa [List.append_nil] at halone

theorem filter_nil (p : Predicate) : Translation.filter u maxNesting [] ≠ .ok (p, []) :=
  (solid_filter (Nat.le_refl maxNesting)).takes [] p

/-! ### Lists -/

theorem filterList_fuel {fuel fuel' : Nat} {lexemes : List Lexeme} (hfuel : lexemes.length < fuel)
    (hfuel' : lexemes.length < fuel') :
    Translation.filterList u fuel lexemes = Translation.filterList u fuel' lexemes := by
  induction fuel generalizing fuel' lexemes with
  | zero => exact absurd hfuel (Nat.not_lt_zero _)
  | succ fuel ih =>
    obtain ⟨fuel', rfl⟩ := Nat.exists_eq_add_one_of_ne_zero (Nat.ne_zero_of_lt hfuel')
    rw [Translation.filterList, Translation.filterList]
    cases hread : Translation.filter u maxNesting lexemes with
    | error stop => rfl
    | ok x =>
      obtain ⟨p, _ | ⟨l, rest⟩⟩ := x
      · rfl
      · have hlength := ((solid_filter (Nat.le_refl maxNesting)).suffix _ _ _ hread).length_le
        rw [List.length_cons] at hlength
        have hrest : Translation.filterList u fuel rest = Translation.filterList u fuel' rest :=
          ih (by omega) (by omega)
        dsimp only
        rw [hrest]

theorem listStatement_cons {part rest : List Lexeme} {l : Lexeme} (hl : l.token = .sign .semicolon)
    (hrest : rest ≠ []) (h : Translation.filter u maxNesting part = .ok (p, [])) :
    Translation.listStatement u (part ++ l :: rest) = (Translation.listStatement u rest).map (p :: ·) := by
  have hempty : ¬rest.isEmpty = true := by rwa [List.isEmpty_iff]
  have hlength : rest.length < (part ++ l :: rest).length := by
    rw [List.length_append, List.length_cons]
    omega
  have hfuel : Translation.filterList u (part ++ l :: rest).length rest = Translation.listStatement u rest :=
    filterList_fuel hlength (Nat.lt_succ_self _)
  rw [Translation.listStatement, Translation.filterList, filter_before (ends_semicolon hl rest) h]
  dsimp only
  rw [if_pos hl, if_neg hempty, hfuel]

theorem listStatement_last {part tail : List Lexeme} (htail : tail = [] ∨ ∃ l, l.token = .sign .semicolon ∧ tail = [l])
    (h : Translation.filter u maxNesting part = .ok (p, [])) :
    Translation.listStatement u (part ++ tail) = .ok [p] := by
  rcases htail with rfl | ⟨l, hl, rfl⟩
  · rw [List.append_nil, Translation.listStatement, Translation.filterList, h]
  · rw [Translation.listStatement, Translation.filterList, filter_before (ends_semicolon hl []) h]
    exact if_pos hl

theorem listStatement_nil (ps : List Predicate) : Translation.listStatement u [] ≠ .ok ps := by
  intro h
  rw [Translation.listStatement, Translation.filterList] at h
  cases hread : Translation.filter u maxNesting [] with
  | error stop =>
    rw [hread] at h
    cases h
  | ok x =>
    obtain ⟨p, rest⟩ := x
    obtain rfl := List.suffix_nil.mp ((solid_filter (Nat.le_refl maxNesting)).suffix _ _ _ hread)
    exact filter_nil p hread

theorem listStatement_of_separated {parts : List (List Lexeme)} {lexemes : List Lexeme} {ps : List Predicate}
    (hparts : Separated parts lexemes)
    (h : List.Forall₂ (fun part p => Translation.filter u maxNesting part = .ok (p, [])) parts ps) :
    Translation.listStatement u lexemes = .ok ps := by
  induction hparts generalizing ps with
  | last part =>
    obtain _ | ⟨hp, _ | _⟩ := h
    have hlist := listStatement_last (.inl rfl) hp
    rwa [List.append_nil] at hlist
  | ended part hl =>
    obtain _ | ⟨hp, _ | _⟩ := h
    exact listStatement_last (.inr ⟨_, hl, rfl⟩) hp
  | @more part l parts rest hl hrest ih =>
    obtain _ | ⟨hp, hps⟩ := h
    have hlist := ih hps
    have hrest : rest ≠ [] := by
      rintro rfl
      exact listStatement_nil _ hlist
    rw [listStatement_cons hl hrest hp, hlist]
    rfl

theorem separated_of_filterList {fuel : Nat} {lexemes : List Lexeme} {ps : List Predicate}
    (hfuel : lexemes.length < fuel) (h : Translation.filterList u fuel lexemes = .ok ps) :
    ∃ parts, Separated parts lexemes ∧
      List.Forall₂ (fun part p => Translation.filter u maxNesting part = .ok (p, [])) parts ps := by
  induction fuel generalizing lexemes ps with
  | zero => exact absurd hfuel (Nat.not_lt_zero _)
  | succ fuel ih =>
    rw [Translation.filterList] at h
    cases hread : Translation.filter u maxNesting lexemes with
    | error stop =>
      rw [hread] at h
      cases h
    | ok x =>
      obtain ⟨p, tail⟩ := x
      obtain ⟨part, rfl⟩ := (solid_filter (Nat.le_refl maxNesting)).suffix _ _ _ hread
      rw [hread] at h
      cases tail with
      | nil =>
        cases h
        rw [List.append_nil] at hread ⊢
        exact ⟨[part], .last part, .cons hread .nil⟩
      | cons l rest =>
        dsimp only at h
        split at h
        case isFalse => cases h
        case isTrue hl =>
          have hpart := filter_alone (ends_semicolon hl rest) hread
          split at h
          case isTrue hempty =>
            cases h
            obtain rfl := List.isEmpty_iff.mp hempty
            exact ⟨[part], .ended part hl, .cons hpart .nil⟩
          case isFalse hempty =>
            cases hmore : Translation.filterList u fuel rest with
            | error stop =>
              rw [hmore] at h
              cases h
            | ok qs =>
              rw [hmore] at h
              cases h
              rw [List.length_append, List.length_cons] at hfuel
              obtain ⟨parts, hparts, hqs⟩ := ih (by omega) hmore
              exact ⟨part :: parts, .more part hl hparts, .cons hpart hqs⟩

theorem Separated.head {parts : List (List Lexeme)} {lexemes : List Lexeme} (h : Separated parts lexemes) :
    ∃ part more tail, parts = part :: more ∧ lexemes = part ++ tail ∧ Ends Token.endsFilter tail ∧
      (more = [] ∧ tail.tail = [] ∨ Separated more tail.tail) := by
  cases h with
  | last part => exact ⟨_, [], [], rfl, (List.append_nil _).symm, ends_nil, .inl ⟨rfl, rfl⟩⟩
  | ended part hl => exact ⟨part, [], _, rfl, rfl, ends_semicolon hl [], .inl ⟨rfl, rfl⟩⟩
  | more part hl hrest => exact ⟨part, _, _, rfl, rfl, ends_semicolon hl _, .inr hrest⟩

theorem filter_end_unique {part part' tail tail' : List Lexeme} (htail : Ends Token.endsFilter tail)
    (htail' : Ends Token.endsFilter tail') (heq : part ++ tail = part' ++ tail')
    (hp : Translation.filter u maxNesting part = .ok (p, []))
    (hq : Translation.filter u maxNesting part' = .ok (q, [])) : part = part' ∧ tail = tail' := by
  have hread := filter_before htail hp
  rw [heq, filter_before htail' hq] at hread
  obtain ⟨_, rfl⟩ := Prod.mk.inj (Except.ok.inj hread)
  exact ⟨List.append_cancel_right heq, rfl⟩

theorem separated_unique {parts parts' : List (List Lexeme)} {lexemes : List Lexeme} {ps qs : List Predicate}
    (h : Separated parts lexemes) (h' : Separated parts' lexemes)
    (hps : List.Forall₂ (fun part p => Translation.filter u maxNesting part = .ok (p, [])) parts ps)
    (hqs : List.Forall₂ (fun part q => Translation.filter u maxNesting part = .ok (q, [])) parts' qs) :
    parts = parts' := by
  induction parts generalizing parts' lexemes ps qs with
  | nil => cases h
  | cons _ more ih =>
    obtain ⟨part, _, tail, hhead, rfl, htail, hmore⟩ := h.head
    obtain ⟨part', more', tail', rfl, heq, htail', hmore'⟩ := h'.head
    cases hhead
    obtain _ | ⟨hp, hps⟩ := hps
    obtain _ | ⟨hq, hqs⟩ := hqs
    obtain ⟨rfl, rfl⟩ := filter_end_unique htail htail' heq hp hq
    rcases hmore with ⟨rfl, hnil⟩ | hmore <;> rcases hmore' with ⟨rfl, hnil'⟩ | hmore'
    · rfl
    · exact absurd (listStatement_of_separated (hnil ▸ hmore') hqs) (listStatement_nil _)
    · exact absurd (listStatement_of_separated (hnil' ▸ hmore) hps) (listStatement_nil _)
    · rw [ih hmore hmore' hps hqs]

/-! ### Compilers -/

variable {compiler : Compiler} {lexemes : List Lexeme}

theorem answers_permitted {entry : EntryPoint} {atEnd : SourceToken} {said : Except Stop (List Predicate)}
    (h : Answers compiler.setting HoldsPredicate atEnd
      (Grammar.statementParts compiler.dialect lexemes entry) said) {ps : List Predicate} :
    compiler.predicates entry atEnd lexemes = .ok ps ↔ said = .ok ps :=
  h.trees_eq_ok (fun _ => rfl) fun _ _ he => he.toPredicate

theorem makes_filter_iff :
    compiler.Makes .filter lexemes [p] ↔
      Translation.filter compiler.setting maxNesting lexemes = .ok (p, []) := by
  have hiff : ∀ atEnd, compiler.predicates .filter atEnd lexemes = .ok [p] ↔
      Translation.filter compiler.setting maxNesting lexemes = .ok (p, []) := by
    intro atEnd
    rw [answers_permitted (answers_filter lexemes), ← toEnd_eq_ok, ← Translation.filterStatement]
    cases Translation.filterStatement compiler.setting lexemes <;> simp [Except.map]
  exact ⟨fun h => (hiff ⟨"", ⟨1, 1⟩⟩).mp (h _), fun h atEnd => (hiff atEnd).mpr h⟩

theorem makes_list_iff {ps : List Predicate} :
    compiler.Makes .list lexemes ps ↔ Translation.listStatement compiler.setting lexemes = .ok ps :=
  ⟨fun h => (answers_permitted (answers_list lexemes)).mp (h ⟨"", ⟨1, 1⟩⟩),
    fun h _ => (answers_permitted (answers_list lexemes)).mpr h⟩

theorem forall_makes_filter_iff {parts : List (List Lexeme)} {ps : List Predicate} :
    List.Forall₂ (fun part p => compiler.Makes .filter part [p]) parts ps ↔
      List.Forall₂ (fun part p => Translation.filter compiler.setting maxNesting part = .ok (p, []))
        parts ps := by
  simp only [makes_filter_iff]

theorem predicates_eq {entry : EntryPoint} (atEnd : SourceToken) :
    compiler.predicates entry atEnd lexemes =
      (assembleParts compiler.dialect compiler.toolkit atEnd
        (Grammar.statementParts compiler.dialect lexemes entry)).1.bind (Compiler.treesOf Entry.toPredicate) :=
  rfl

/-- Behind a filter and a semicolon, the rest of a list decides, also on what goes wrong. -/
theorem predicates_list_cons {part rest : List Lexeme} {l : Lexeme} (hl : l.token = .sign .semicolon)
    (hrest : rest ≠ []) (h : compiler.Makes .filter part [p]) (atEnd : SourceToken) :
    compiler.predicates .list atEnd (part ++ l :: rest) =
      (compiler.predicates .list atEnd rest).map (p :: ·) := by
  have hmore : Answers compiler.setting HoldsPredicate atEnd
    (Grammar.statementParts compiler.dialect rest .list) _ := answers_list rest
  have hall : Answers compiler.setting HoldsPredicate atEnd
    (Grammar.statementParts compiler.dialect (part ++ l :: rest) .list) _ := answers_list (part ++ l :: rest)
  rw [listStatement_cons hl hrest (makes_filter_iff.mp h)] at hall
  generalize Translation.listStatement compiler.setting rest = said at hmore hall
  cases said with
  | ok ps =>
    rw [(answers_permitted hmore).mpr rfl, (answers_permitted hall).mpr rfl]
    rfl
  | error stop =>
    have hstop : ∃ fault, compiler.predicates .list atEnd rest = .error fault ∧
        compiler.predicates .list atEnd (part ++ l :: rest) = .error fault := by
      rw [predicates_eq, predicates_eq]
      cases hmore with
      | fault hresult =>
        cases hall with
        | fault hresult' => exact ⟨_, congrArg (Except.bind · _) hresult, congrArg (Except.bind · _) hresult'⟩
      | finding hresult =>
        cases hall with
        | finding hresult' => exact ⟨_, congrArg (Except.bind · _) hresult, congrArg (Except.bind · _) hresult'⟩
      | refused _ _ hred => cases hred
    obtain ⟨fault, hfault, hfault'⟩ := hstop
    rw [hfault, hfault']
    rfl

theorem not_makes_before {before after : List Lexeme} {l : Lexeme} (hl : l.token = .sign .semicolon)
    (hp : compiler.Makes .filter (before ++ l :: after) [p]) (q : Predicate) :
    ¬compiler.Makes .filter before [q] := by
  intro hq
  have hread := filter_before (ends_semicolon hl after) (makes_filter_iff.mp hq)
  rw [makes_filter_iff.mp hp] at hread
  cases hread

/-- **Lists of filters are exactly filters with semicolons between them.**  A compiler makes a list of
predicates of some lexemes exactly if these are parts with semicolons between them, and perhaps one behind the
last, of each of which it makes its predicate alone.  The parts are found in one way only: no semicolon inside
a filter ends another one, so that those of geometry literals never separate.  What goes wrong behind a filter
and a semicolon goes wrong for the whole list.  Statements come to the same as their lexemes. -/
theorem filter_list_iff_separated (compiler : Compiler) (lexemes : List Lexeme) :
    (∀ ps, compiler.Makes .list lexemes ps ↔
      ∃ parts, Separated parts lexemes ∧
        List.Forall₂ (fun part p => compiler.Makes .filter part [p]) parts ps) ∧
    (∀ parts parts' ps qs, Separated parts lexemes → Separated parts' lexemes →
      List.Forall₂ (fun part p => compiler.Makes .filter part [p]) parts ps →
      List.Forall₂ (fun part q => compiler.Makes .filter part [q]) parts' qs → parts = parts') ∧
    (∀ p before l after, lexemes = before ++ l :: after → l.token = .sign .semicolon →
      compiler.Makes .filter lexemes [p] → ∀ q, ¬compiler.Makes .filter before [q]) ∧
    (∀ p part l rest, lexemes = part ++ l :: rest → l.token = .sign .semicolon → rest ≠ [] →
      compiler.Makes .filter part [p] → ∀ atEnd, compiler.predicates .list atEnd lexemes =
        (compiler.predicates .list atEnd rest).map (p :: ·)) ∧
    ∀ statement, scan statement = .ok lexemes →
      (∀ p, (compiler.compileFilter statement).result = .ok p ↔ compiler.Makes .filter lexemes [p]) ∧
      ∀ ps, (compiler.compileFilterList statement).result = .ok ps ↔ compiler.Makes .list lexemes ps := by
  refine ⟨fun ps => ?_, fun parts parts' ps qs h h' hps hqs => ?_, ?_, ?_, fun statement hscan => ⟨fun p => ?_, fun ps => ?_⟩⟩
  · simp only [makes_list_iff, forall_makes_filter_iff]
    constructor
    · exact separated_of_filterList (Nat.lt_succ_self _)
    · rintro ⟨parts, hparts, hps⟩
      exact listStatement_of_separated hparts hps
  · exact separated_unique h h' (forall_makes_filter_iff.mp hps) (forall_makes_filter_iff.mp hqs)
  · rintro p before l after rfl hl hp
    exact not_makes_before hl hp
  · rintro p part l rest rfl hl hrest hp
    exact predicates_list_cons hl hrest hp
  · have hreports := compileFilter_reports (u := compiler.setting) hscan
    rw [makes_filter_iff, ← toEnd_eq_ok]
    exact ⟨hreports.eq_ok (not_unpermittedIn (fun _ => rfl) _), fun hsaid => (hsaid ▸ hreports).of_ok⟩
  · have hreports := compileFilterList_reports (u := compiler.setting) hscan
    rw [makes_list_iff]
    exact ⟨hreports.eq_ok (not_unpermittedIn (fun _ => rfl) _), fun hsaid => (hsaid ▸ hreports).of_ok⟩

/-- The semicolon of a geometry literal stands inside the first of two filters. -/
theorem filter_list_separated_behind_literal :
    ∃ first l second l', scan "EQUALS(g, SRID=4326;POINT(1 2)); a = 1;" = .ok (first ++ l :: (second ++ [l'])) ∧
      first.any (·.token == .sign .semicolon) = true ∧
      ∃ p q, ((⟨.ecql, ⟨.plain, CrsRegistry.wellKnown.resolver⟩⟩ : Compiler).compileFilterList
        "EQUALS(g, SRID=4326;POINT(1 2)); a = 1;").result = .ok [p, q] := by
  let compiler : Compiler := ⟨.ecql, ⟨.plain, CrsRegistry.wellKnown.resolver⟩⟩
  let first : List Lexeme := [⟨.word "EQUALS" none, ⟨1, 1⟩⟩, ⟨.sign .leftParen, ⟨1, 7⟩⟩, ⟨.word "g" none, ⟨1, 8⟩⟩,
    ⟨.sign .comma, ⟨1, 9⟩⟩, ⟨.word "SRID" none, ⟨1, 11⟩⟩, ⟨.sign .equal, ⟨1, 15⟩⟩,
    ⟨.number "4326" false, ⟨1, 16⟩⟩, ⟨.sign .semicolon, ⟨1, 20⟩⟩, ⟨.word "POINT" none, ⟨1, 21⟩⟩,
    ⟨.sign .leftParen, ⟨1, 26⟩⟩, ⟨.number "1" false, ⟨1, 27⟩⟩, ⟨.number "2" false, ⟨1, 29⟩⟩,
    ⟨.sign .rightParen, ⟨1, 30⟩⟩, ⟨.sign .rightParen, ⟨1, 31⟩⟩]
  let second : List Lexeme := [⟨.word "a" none, ⟨1, 34⟩⟩, ⟨.sign .equal, ⟨1, 36⟩⟩, ⟨.number "1" false, ⟨1, 38⟩⟩]
  have hscan : scan "EQUALS(g, SRID=4326;POINT(1 2)); a = 1;" =
      .ok (first ++ ⟨.sign .semicolon, ⟨1, 32⟩⟩ :: (second ++ [⟨.sign .semicolon, ⟨1, 39⟩⟩])) := by
    decide +kernel
  have hmakes : ∀ part, ((Translation.filter compiler.setting maxNesting part).toOption.map Prod.snd = some []) →
      ∃ p, compiler.Makes .filter part [p] := by
    intro part h
    cases hread : Translation.filter compiler.setting maxNesting part with
    | error stop =>
      rw [hread] at h
      cases h
    | ok x =>
      obtain ⟨p, rest⟩ := x
      rw [hread] at h
      cases h
      exact ⟨p, makes_filter_iff.mpr hread⟩
  obtain ⟨p, hp⟩ := hmakes first (by decide +kernel)
  obtain ⟨q, hq⟩ := hmakes second (by decide +kernel)
  have hlist := (filter_list_iff_separated compiler _).2.2.2.2 _ hscan
  refine ⟨first, _, second, _, hscan, by decide, p, q, (hlist.2 [p, q]).mpr ?_⟩
  exact ((filter_list_iff_separated compiler _).1 [p, q]).mpr
    ⟨[first, second], .more first rfl (.ended second rfl), .cons hp (.cons hq .nil)⟩

end GeoFilter
