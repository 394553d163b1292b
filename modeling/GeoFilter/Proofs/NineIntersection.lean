import GeoFilter.Proofs.Bracket
import GeoFilter.Proofs.Spelling
import GeoFilter.Proofs.Standing

/-!
# Patterns of the nine-intersection model

A pattern is nine characters, each T, F, an asterisk or a dimension from 0 to 2.  Written without quotes it is cut into
words, numbers and asterisks, whichever way its characters follow each other: all of them are cut as they are spelled, so
they stand right behind each other and spell the pattern again.  Pieces with a blank or a comment between them do not.
-/

namespace GeoFilter

/-- Whether a text is a pattern: nine characters, each T, F, an asterisk, 0, 1 or 2, the letters in either case. -/
def IsNineIntersection (pattern : String) : Prop :=
  pattern.toList.length = 9 ∧ ∀ c ∈ pattern.toList, c.toUpper ∈ ['T', 'F', '*', '0', '1', '2']

theorem isDe9im_iff {pattern : String} : Assembly.isDe9im pattern = true ↔ IsNineIntersection pattern := by
  simp only [Assembly.isDe9im, IsNineIntersection, Bool.and_eq_true, beq_iff_eq, List.all_eq_true, List.contains_iff_mem]

instance (pattern : String) : Decidable (IsNineIntersection pattern) := decidable_of_iff _ isDe9im_iff

namespace Scan

def patternChars : List Char := ['T', 't', 'F', 'f', '*', '0', '1', '2']

theorem mem_patternChars {c : Char} (h : c.toUpper ∈ ['T', 'F', '*', '0', '1', '2']) : c ∈ patternChars := by
  have hsmall : ∀ n : Fin 128, (Char.ofNat n).toUpper ∈ ['T', 'F', '*', '0', '1', '2'] → Char.ofNat n ∈ patternChars := by
    decide
  by_cases hc : c.toNat < 128
  · have hchar := hsmall ⟨c.toNat, hc⟩
    rw [Char.ofNat_toNat] at hchar
    exact hchar h
  · -- Beyond ASCII a character is its own upper case.
    have hupper : c.toUpper = c := by
      refine dif_neg fun hletter => hc ?_
      have hhigh : c.toNat ≤ 122 := hletter.2
      omega
    rw [hupper] at h
    have hbound : ∀ d ∈ ['T', 'F', '*', '0', '1', '2'], d.toNat < 128 := by simp
    exact absurd (hbound c h) hc

def SpelledInPattern (token : Token) : Prop := ∀ c ∈ token.spelling.toList, c ∈ patternChars

/-! ### Pieces as they are spelled -/

/-- Whether a token in the characters of patterns, if that is what a rule answers, is cut as it is spelled. -/
def AnswersAsSpelled (c : Char) (rest : List Char) (r : Except ScanFault Piece) : Prop :=
  ∀ token more, r = .ok (some token, more) → SpelledInPattern token →
    token.text = token.spelling ∧ c :: rest.take more = token.spelling.toList

section Rules

variable {c : Char} {rest : List Char}

theorem asSpelled_error (fault : ScanFault) : AnswersAsSpelled c rest (.error fault) := nofun

theorem asSpelled_blank (more : Nat) : AnswersAsSpelled c rest (.ok (none, more)) := nofun

theorem asSpelled_piece {token : Token} {more : Nat}
    (h : SpelledInPattern token → token.text = token.spelling ∧ c :: rest.take more = token.spelling.toList) :
    AnswersAsSpelled c rest (piece token more) := by
  intro token' more' hpiece
  cases hpiece
  exact h

theorem asSpelled_strange {token : Token} {d : Char} (hd : d ∈ token.spelling.toList) (hstrange : d ∉ patternChars)
    (more : Nat) : AnswersAsSpelled c rest (piece token more) :=
  asSpelled_piece fun h => absurd (h d hd) hstrange

theorem asSpelled_other {spelling : List Char} {d : Char} (hd : d ∈ spelling) (hstrange : d ∉ patternChars) (more : Nat) :
    AnswersAsSpelled c rest (otherPiece spelling more) :=
  asSpelled_strange (by rwa [Token.spelling, String.toList_ofList]) hstrange more

theorem asSpelled_wordFrom (start more : List Char) :
    AnswersAsSpelled c (start ++ more) (wordFrom (c :: start) more) := by
  refine asSpelled_piece fun _ => ⟨rfl, ?_⟩
  have hword : more.take (more.takeWhile isWordPart).length = more.takeWhile isWordPart :=
    (List.prefix_iff_eq_take.mp (List.takeWhile_prefix _)).symm
  rw [Token.spelling, String.toList_ofList, List.length_cons, Nat.add_sub_cancel, List.take_length_add_append, hword,
    List.cons_append]

theorem asSpelled_quotedWord {quote : Char} (hquote : quote ∉ patternChars) (body : List Char) :
    AnswersAsSpelled c rest (quotedWord quote body) := by
  unfold quotedWord
  split
  · exact asSpelled_strange (by simp [Token.spelling]) hquote _
  · exact asSpelled_error _

theorem asSpelled_quotedText (body : List Char) : AnswersAsSpelled c rest (quotedText body) := by
  unfold quotedText
  split
  · exact asSpelled_strange (d := '\'') (by simp [Token.spelling]) (by decide) _
  · exact asSpelled_error _

theorem asSpelled_prefixedText (shown quote : Char) {shownQuote : Char} (hquote : shownQuote ∉ patternChars)
    (body : List Char) : AnswersAsSpelled c rest (prefixedText shown quote shownQuote body) := by
  unfold prefixedText
  split
  · exact asSpelled_other (by simp) hquote _
  · exact asSpelled_error _

theorem asSpelled_escapedText (body : List Char) : AnswersAsSpelled c rest (escapedText body) := by
  unfold escapedText
  split
  · exact asSpelled_other (d := '\'') (by simp) (by decide) _
  · exact asSpelled_error _

theorem asSpelled_wordOrMarkedText : AnswersAsSpelled c rest (wordOrMarkedText c rest) := by
  unfold wordOrMarkedText
  split <;> first
    | exact asSpelled_prefixedText _ _ (by decide) _
    | exact asSpelled_escapedText _
    | exact asSpelled_wordFrom [] _

theorem asSpelled_dollarPiece (body : List Char) : AnswersAsSpelled c rest (dollarPiece body) := by
  unfold dollarPiece
  dsimp only
  repeat' split
  all_goals first | exact asSpelled_other (d := '$') (by simp) (by decide) _ | exact asSpelled_error _

theorem asSpelled_atPiece : AnswersAsSpelled '@' rest (atPiece rest) := by
  unfold atPiece
  split
  case h_5 =>
    split
    case h_3 c _ _ => exact asSpelled_wordFrom ['@', c] _
    all_goals exact asSpelled_other (d := '@') (by simp) (by decide) _
  case h_6 c _ _ _ _ _ => exact asSpelled_wordFrom [c] _
  all_goals exact asSpelled_other (d := '@') (by simp) (by decide) _

theorem asSpelled_hashPiece : AnswersAsSpelled '#' rest (hashPiece rest) := by
  unfold hashPiece
  split
  case h_6 c _ _ _ _ _ => exact asSpelled_wordFrom [c] _
  all_goals exact asSpelled_other (d := '#') (by simp) (by decide) _

theorem strange_of_compound : ∀ spelling ∈ compoundSpellings, ∃ d ∈ spelling.toList, d ∉ patternChars := by
  have hall : compoundSpellings.all (fun spelling => spelling.toList.any fun d => !patternChars.contains d) = true := by
    decide
  intro spelling hspelling
  obtain ⟨d, hd, hstrange⟩ := List.any_eq_true.mp (List.all_eq_true.mp hall spelling hspelling)
  exact ⟨d, hd, by simpa using hstrange⟩

theorem asSpelled_signPiece : AnswersAsSpelled c rest (signPiece c rest) := by
  unfold signPiece
  split
  case h_1 spelling hlongest =>
    obtain ⟨s, hs, rfl⟩ := List.mem_map.mp (List.mem_of_find?_eq_some hlongest)
    obtain ⟨d, hd, hstrange⟩ := strange_of_compound s hs
    exact asSpelled_other hd hstrange _
  case h_2 =>
    split
    case h_1 spelling sign hfound =>
      have hstar : ∀ s ∈ signSpellings, s.2.spelling.toList.all patternChars.contains = true → s.1 = s.2.spelling := by
        decide
      refine asSpelled_piece fun hspelled => ⟨rfl, ?_⟩
      have hspelling : spelling = sign.spelling :=
        hstar _ (List.mem_of_find?_eq_some hfound) (List.all_eq_true.mpr fun d hd => List.contains_iff_mem.mpr (hspelled d hd))
      have hstarts : sign.spelling.toList <+: c :: rest := by
        have hfits := List.find?_some hfound
        rw [hspelling] at hfits
        exact List.isPrefixOf_iff_prefix.mp hfits
      have hlength : sign.spelling.toList.length = spelling.length - 1 + 1 := by
        rw [hspelling, String.length_toList]
        cases sign <;> rfl
      rw [Token.spelling, List.prefix_iff_eq_take.mp hstarts, hlength, List.take_succ_cons]
    case h_2 => exact asSpelled_piece fun _ => ⟨rfl, by simp [Token.spelling]⟩

theorem asSpelled_number {whole fraction exponent : List Char} (hwhole : whole <+: c :: rest)
    (hfraction : IsFraction fraction) (hexponent : IsExponent exponent) (hdigit : whole = [] → fraction ≠ []) (long : Bool) :
    AnswersAsSpelled c rest (piece (.number (String.ofList (whole ++ fraction ++ exponent)) long)
      ((whole ++ fraction ++ exponent).length - 1 + if long then 1 else 0)) := by
  cases long with
  | true => exact asSpelled_strange (d := 'L') (by simp [Token.spelling]) (by decide) _
  | false =>
    refine asSpelled_piece fun hspelled => ⟨rfl, ?_⟩
    have hchars : ∀ d ∈ whole ++ fraction ++ exponent, d ∈ patternChars := by
      intro d hd
      exact hspelled d (by rwa [Token.spelling, if_neg Bool.false_ne_true, String.toList_ofList])
    -- A point and the mark of an exponent are no characters of patterns.
    obtain rfl : fraction = [] := by
      rcases hfraction with rfl | ⟨ds, rfl, _⟩
      · rfl
      · exact absurd (hchars '.' (by simp)) (by decide)
    obtain rfl : exponent = [] := by
      rcases hexponent with rfl | ⟨mark, signs, ds, rfl, hmark, _⟩
      · rfl
      · have hstrange := hchars mark (by simp)
        rcases hmark with rfl | rfl <;> exact absurd hstrange (by decide)
    obtain ⟨d, ds, rfl⟩ := List.exists_cons_of_ne_nil fun hnil => hdigit hnil rfl
    obtain ⟨rfl, hmore⟩ := List.cons_prefix_cons.mp hwhole
    simpa [Token.spelling] using (List.prefix_iff_eq_take.mp hmore).symm

theorem asSpelled_numberOrPeriod (hc : c.isDigit = true ∨ c = '.') :
    AnswersAsSpelled c rest (numberOrPeriod (c :: rest)) := by
  unfold numberOrPeriod
  dsimp only
  split
  · exact asSpelled_other (d := 'X') (by simp) (by decide) _
  · split
    case isTrue => exact asSpelled_strange (d := '.') (by decide) (by decide) _
    case isFalse =>
      refine asSpelled_number (List.takeWhile_prefix _) (isFraction_fractionChars _) (isExponent_exponentChars _) ?_ _
      -- Without a digit in front the piece starts with its point.
      intro hnone
      rcases hc with hc | rfl
      · rw [List.takeWhile_cons_of_pos hc] at hnone
        cases hnone
      · rw [List.dropWhile_cons_of_neg (by decide)]
        exact List.cons_ne_nil _ _

theorem asSpelled_pieceAt : AnswersAsSpelled c rest (pieceAt c rest) := by
  unfold pieceAt
  split
  case isTrue => exact asSpelled_wordOrMarkedText
  case isFalse =>
    split
    case isTrue hc => exact asSpelled_numberOrPeriod hc
    case isFalse =>
      split
      · exact asSpelled_blank 0
      · split
        · exact asSpelled_quotedText _
        · exact asSpelled_quotedWord (by decide) _
        · exact asSpelled_quotedWord (by decide) _
        · exact asSpelled_dollarPiece _
        · exact asSpelled_atPiece
        · exact asSpelled_hashPiece
        · exact asSpelled_other (d := '?') (by simp) (by decide) _
        · exact asSpelled_blank _
        · unfold blockComment
          split
          · exact asSpelled_blank _
          · exact asSpelled_error _
        · exact asSpelled_signPiece

end Rules

end Scan

/-! ### Pieces right behind each other -/

/-- The place right behind a lexeme that is written as its text. -/
def Lexeme.behind (l : Lexeme) : Place := ⟨l.place.line, l.place.column + l.token.text.length⟩

theorem Place.after_of_line (p : Place) {cs : List Char} (h : '\n' ∉ cs) : p.after cs = ⟨p.line, p.column + cs.length⟩ := by
  induction cs generalizing p with
  | nil => rfl
  | cons c cs ih =>
    obtain ⟨hc, hcs⟩ := not_or.mp (List.mem_cons.not.mp h)
    have hafter : p.after (c :: cs) = (p.next c).after cs := rfl
    rw [hafter, ih _ hcs, Place.next, if_neg (Ne.symm hc), List.length_cons, Nat.add_assoc, Nat.add_comm 1]

theorem Lexeme.behind_eq_after {l : Lexeme} {cs : List Char} (htext : l.token.text.toList = cs)
    (hcs : ∀ c ∈ cs, c ∈ Scan.patternChars) : l.behind = l.place.after cs := by
  have hline : '\n' ∉ cs := fun hfeed => absurd (hcs '\n' hfeed) (by decide)
  rw [Place.after_of_line _ hline, ← htext, String.length_toList, Lexeme.behind]

theorem Scan.Standing.behind_eq {start : Place} {text : List Char} {l : Lexeme} (s : Scan.Standing start text l)
    (h : Scan.SpelledInPattern l.token) : l.behind = start.after (s.before ++ s.chars) := by
  obtain ⟨htext, hchars⟩ := Scan.asSpelled_pieceAt l.token s.more s.piece_eq h
  have hchars : s.chars = l.token.spelling.toList := hchars
  rw [Place.after_append, ← s.place_eq]
  exact Lexeme.behind_eq_after (by rw [hchars, htext]) fun c hc => h c (hchars ▸ hc)

/-- A piece is taken if it stands where it has to, and the next one has to stand right behind it. -/
theorem barePattern_cons {l : Lexeme} (hl : l.token.isPatternPiece = true) (behind? : Option Place) (ls : List Lexeme) :
    Grammar.barePattern behind? (l :: ls) =
      if behind?.any (· ≠ l.place) then .error (.inPattern l.source)
      else (Grammar.barePattern (some l.behind) ls).map fun r => (l.token.spelling ++ r.1, r.2) := by
  rw [Grammar.barePattern, if_neg (of_decide_eq_true hl)]
  split
  · rfl
  · rw [Lexeme.behind]
    cases Grammar.barePattern (some ⟨l.place.line, l.place.column + l.token.text.length⟩) ls <;> rfl

theorem barePattern_cons_eq_ok {l : Lexeme} (hl : l.token.isPatternPiece = true) {behind? : Option Place}
    {ls rest : List Lexeme} {text : String} (h : Grammar.barePattern behind? (l :: ls) = .ok (text, rest)) :
    (∀ place ∈ behind?, l.place = place) ∧ ∃ more, Grammar.barePattern (some l.behind) ls = .ok (more, rest) := by
  rw [barePattern_cons hl] at h
  split at h
  case isTrue => cases h
  case isFalse hplace =>
    constructor
    · rintro place rfl
      exact Decidable.byContradiction fun hne => hplace (decide_eq_true (Ne.symm hne))
    · cases hmore : Grammar.barePattern (some l.behind) ls with
      | error fault =>
        rw [hmore] at h
        cases h
      | ok r =>
        rw [hmore] at h
        cases h
        exact ⟨r.1, rfl⟩

theorem place_eq_behind {behind? : Option Place} {front back rest : List Lexeme} {l l' : Lexeme} {text : String}
    (h : Grammar.barePattern behind? (front ++ l :: l' :: back) = .ok (text, rest))
    (hpieces : ∀ x ∈ front ++ [l, l'], x.token.isPatternPiece = true) : l'.place = l.behind := by
  induction front generalizing behind? text with
  | nil =>
    obtain ⟨-, more, hmore⟩ := barePattern_cons_eq_ok (hpieces l (by simp)) h
    exact (barePattern_cons_eq_ok (hpieces l' (by simp)) hmore).1 _ rfl
  | cons x front ih =>
    obtain ⟨hx, hpieces⟩ := List.forall_mem_cons.mp hpieces
    obtain ⟨-, more, hmore⟩ := barePattern_cons_eq_ok hx h
    exact ih hmore hpieces

/-- Whether lexemes stand right behind each other, the first one at a place. -/
def StandFrom : Place → List Lexeme → Prop
  | _, [] => True
  | place, l :: ls => l.place = place ∧ StandFrom l.behind ls

/-- A pattern without quotes is spelled by pieces right behind each other, up to a lexeme that is none. -/
theorem barePattern_of_standFrom {place : Place} {pieces : List Lexeme} (hstand : StandFrom place pieces)
    (hpieces : ∀ l ∈ pieces, l.token.isPatternPiece = true) {behind? : Option Place} (hbehind : ∀ p ∈ behind?, p = place)
    {close : Lexeme} (hclose : close.token.isPatternPiece = false) (rest : List Lexeme) :
    Grammar.barePattern behind? (pieces ++ close :: rest) = .ok (spelled (tokensOf pieces), close :: rest) := by
  induction pieces generalizing place behind? with
  | nil =>
    rw [List.nil_append, Grammar.barePattern, if_pos (Decidable.not_not.mp (of_decide_eq_false hclose))]
    rfl
  | cons l pieces ih =>
    obtain ⟨hl, hpieces⟩ := List.forall_mem_cons.mp hpieces
    obtain ⟨hplace, hmore⟩ := hstand
    have hstands : behind?.any (· ≠ l.place) = false := by
      cases behind? with
      | none => rfl
      | some p => exact decide_eq_false (not_not_intro ((hbehind p rfl).trans hplace.symm))
    rw [List.cons_append, barePattern_cons hl, hstands, if_neg Bool.false_ne_true,
      ih hmore hpieces fun p hp => (Option.some.inj hp).symm]
    rfl

/-! ### Patterns that are cut -/

namespace Scan

/-- A run of characters of one sort at the front of a pattern, and what stops it. -/
theorem exists_run (sort : Char → Bool) {after : List Char} (hafter : ∀ d ∈ after.head?, sort d = false) (cs : List Char) :
    ∃ run more, cs = run ++ more ∧ (∀ d ∈ run, sort d = true) ∧
      ∀ d ∈ (more ++ after).head?, sort d = false ∧ (d ∈ cs ∨ d ∈ after.head?) := by
  refine ⟨cs.takeWhile sort, cs.dropWhile sort, List.takeWhile_append_dropWhile.symm, fun d hd => List.mem_takeWhile_imp hd,
    fun d hd => ?_⟩
  have hstops := List.head?_dropWhile_not sort cs
  have hsubset : cs.dropWhile sort ⊆ cs := (List.dropWhile_suffix sort).subset
  cases hmore : cs.dropWhile sort with
  | nil =>
    rw [hmore] at hd
    exact ⟨hafter d hd, .inr hd⟩
  | cons d' ds =>
    rw [hmore] at hd hstops hsubset
    cases hd
    exact ⟨by simpa using hstops, .inl (hsubset List.mem_cons_self)⟩

/-- The first piece of a pattern is a word, a number or an asterisk, and ends in the pattern. -/
theorem pieceAt_pattern {c : Char} {cs after : List Char} (hc : c ∈ patternChars) (hcs : ∀ d ∈ cs, d ∈ patternChars)
    (hword : EndsWord after) (hnumber : EndsNumber after) :
    ∃ token run more, cs = run ++ more ∧ pieceAt c (cs ++ after) = .ok (some token, run.length) ∧
      token.isPatternPiece = true ∧ Grammar.isQuotedPattern token = false ∧ token.text = token.spelling ∧
      token.spelling.toList = c :: run := by
  have hkind : isWordStart c = true ∨ c.isDigit = true ∨ c = '*' := by
    have hall : patternChars.all (fun d => isWordStart d || d.isDigit || d == '*') = true := by decide
    simpa [or_assoc] using List.all_eq_true.mp hall c hc
  rcases hkind with hstart | hdigit | rfl
  · obtain ⟨run, more, rfl, hrun, hmore⟩ := exists_run isWordPart (fun d hd => (hword d hd).1) cs
    have hends : EndsWord (more ++ after) := by
      intro d hd
      obtain ⟨hpart, hin | hin⟩ := hmore d hd
      · have hall : ∀ d ∈ patternChars, d ≠ '\'' ∧ d ≠ '"' := by simp [patternChars]
        exact ⟨hpart, hall d (hcs d hin)⟩
      · exact hword d hin
    refine ⟨.word (String.ofList (c :: run)) none, run, more, rfl, ?_, rfl, rfl, rfl, String.toList_ofList⟩
    rw [List.append_assoc]
    exact pieceAt_word hstart hrun hends
  · obtain ⟨run, more, rfl, hrun, hmore⟩ := exists_run Char.isDigit (fun d hd => (hnumber d hd).1) cs
    have hends : EndsNumber (more ++ after) := by
      intro d hd
      obtain ⟨hpart, hin | hin⟩ := hmore d hd
      · have hall : ∀ d ∈ patternChars, d ∉ ['.', 'e', 'E', 'x', 'L'] := by simp [patternChars]
        exact ⟨hpart, hall d (hcs d hin)⟩
      · exact hnumber d hin
    refine ⟨.number (String.ofList (c :: run)) false, run, more, rfl, ?_, rfl, rfl, rfl, String.toList_ofList⟩
    have hfraction : IsFraction [] := .inl rfl
    have hexponent : IsExponent [] := .inl rfl
    have hpiece := pieceAt_number false (List.forall_mem_cons.mpr ⟨hdigit, hrun⟩) hfraction hexponent hends
    simpa using hpiece
  · exact ⟨.sign .star, [], cs, rfl, rfl, rfl, rfl, rfl, rfl⟩

theorem scanChars_pattern {p after : List Char} (hp : ∀ c ∈ p, c ∈ patternChars) (hword : EndsWord after)
    (hnumber : EndsNumber after) {start : Place} {lexemes : List Lexeme}
    (h : scanChars 0 start (p ++ after) = .ok lexemes) :
    ∃ pieces rest, lexemes = pieces ++ rest ∧ scanChars 0 (start.after p) after = .ok rest ∧ StandFrom start pieces ∧
      (spelled (tokensOf pieces)).toList = p ∧
      ∀ l ∈ pieces, l.token.isPatternPiece = true ∧ Grammar.isQuotedPattern l.token = false := by
  induction hlength : p.length using Nat.strong_induction_on generalizing p start lexemes with
  | h n ih =>
    subst hlength
    rcases p with _ | ⟨c, cs⟩
    · exact ⟨[], lexemes, rfl, h, trivial, rfl, nofun⟩
    obtain ⟨hc, hcs⟩ := List.forall_mem_cons.mp hp
    obtain ⟨token, run, more, rfl, hpiece, hisPiece, hunquoted, htext, hspelling⟩ :=
      pieceAt_pattern hc hcs hword hnumber
    rw [List.cons_append] at h
    obtain ⟨token?, n, lexemes', hpiece', hrest, rfl⟩ := scanChars_cons h
    cases hpiece.symm.trans hpiece'
    rw [List.append_assoc, scanChars_length] at hrest
    have hshorter : more.length < (c :: (run ++ more)).length := by
      rw [List.length_cons, List.length_append]
      omega
    obtain ⟨pieces, rest, rfl, hafter, hstand, hspelled, hpieces⟩ :=
      ih _ hshorter (fun d hd => hcs d (List.mem_append_right _ hd)) hrest rfl
    have htoken : token.text.toList = c :: run := by rw [htext, hspelling]
    have hbehind : Lexeme.behind ⟨token, start⟩ = (start.next c).after run :=
      Lexeme.behind_eq_after (l := ⟨token, start⟩) htoken fun d hd => hp d (List.mem_append_left more hd)
    refine ⟨⟨token, start⟩ :: pieces, rest, rfl, ?_, ⟨rfl, hbehind ▸ hstand⟩, ?_, ?_⟩
    · rw [← Place.after_append] at hafter
      exact hafter
    · have hcons : (spelled (tokensOf (⟨token, start⟩ :: pieces))).toList =
          token.spelling.toList ++ (spelled (tokensOf pieces)).toList := String.toList_append
      rw [hcons, hspelling, hspelled, List.cons_append]
    · exact List.forall_mem_cons.mpr ⟨⟨hisPiece, hunquoted⟩, hpieces⟩

/-! ### What stands behind a pattern -/

/-- Whether a rule passes over its characters or answers a closing parenthesis. -/
def Closes (r : Except ScanFault Piece) : Prop :=
  ∃ token? more, r = .ok (token?, more) ∧ ∀ token ∈ token?, token = .sign .rightParen

theorem not_closes_error (fault : ScanFault) : ¬Closes (.error fault) := nofun

theorem not_closes_piece {token : Token} (h : token ≠ .sign .rightParen) (more : Nat) : ¬Closes (piece token more) := by
  rintro ⟨token?, more', hpiece, htoken⟩
  cases hpiece
  exact h (htoken token rfl)

theorem not_closes_other (spelling : List Char) (more : Nat) : ¬Closes (otherPiece spelling more) :=
  not_closes_piece (by nofun) more

theorem not_closes_prefixedText (shown quote shownQuote : Char) (body : List Char) :
    ¬Closes (prefixedText shown quote shownQuote body) := by
  unfold prefixedText
  split
  · exact not_closes_other _ _
  · exact not_closes_error _

theorem not_closes_escapedText (body : List Char) : ¬Closes (escapedText body) := by
  unfold escapedText
  split
  · exact not_closes_other _ _
  · exact not_closes_error _

theorem not_closes_wordFrom (start rest : List Char) : ¬Closes (wordFrom start rest) :=
  not_closes_piece (by nofun) _

theorem not_closes_wordOrMarkedText (c : Char) (rest : List Char) : ¬Closes (wordOrMarkedText c rest) := by
  unfold wordOrMarkedText
  split <;> first
    | exact not_closes_prefixedText _ _ _ _
    | exact not_closes_escapedText _
    | exact not_closes_wordFrom _ _

theorem not_closes_quotedText (body : List Char) : ¬Closes (quotedText body) := by
  unfold quotedText
  split
  · exact not_closes_piece (by nofun) _
  · exact not_closes_error _

theorem not_closes_quotedWord (quote : Char) (body : List Char) : ¬Closes (quotedWord quote body) := by
  unfold quotedWord
  split
  · exact not_closes_piece (by nofun) _
  · exact not_closes_error _

theorem not_closes_dollarPiece (rest : List Char) : ¬Closes (dollarPiece rest) := by
  unfold dollarPiece
  dsimp only
  repeat' split
  all_goals first | exact not_closes_other _ _ | exact not_closes_error _

theorem not_closes_atPiece (rest : List Char) : ¬Closes (atPiece rest) := by
  unfold atPiece
  repeat' split
  all_goals first | exact not_closes_other _ _ | exact not_closes_wordFrom _ _

theorem not_closes_hashPiece (rest : List Char) : ¬Closes (hashPiece rest) := by
  unfold hashPiece
  repeat' split
  all_goals first | exact not_closes_other _ _ | exact not_closes_wordFrom _ _

theorem not_closes_numberOrPeriod (cs : List Char) : ¬Closes (numberOrPeriod cs) := by
  unfold numberOrPeriod
  dsimp only
  split
  · exact not_closes_other _ _
  · split
    · exact not_closes_piece (by nofun) _
    · exact not_closes_piece (by nofun) _

/-- In front of a closing parenthesis, with blanks and comments between, words and numbers end. -/
theorem ends_of_closes {c : Char} {rest : List Char} (h : Closes (pieceAt c rest)) :
    (isWordPart c = false ∧ c ≠ '\'' ∧ c ≠ '"') ∧ c.isDigit = false ∧ c ∉ ['.', 'e', 'E', 'x', 'L'] := by
  have hstart : isWordStart c = false := by
    refine Bool.eq_false_iff.mpr fun hc => ?_
    rw [show pieceAt c rest = wordOrMarkedText c rest from if_pos hc] at h
    exact not_closes_wordOrMarkedText c rest h
  have hnumber : ¬(c.isDigit = true ∨ c = '.') := by
    intro hc
    have hpiece : pieceAt c rest = numberOrPeriod (c :: rest) := by
      unfold pieceAt
      rw [hstart, if_neg Bool.false_ne_true, if_pos hc]
    exact not_closes_numberOrPeriod _ (hpiece ▸ h)
  obtain ⟨hdigit, hpoint⟩ := not_or.mp hnumber
  have hdigit : c.isDigit = false := Bool.eq_false_iff.mpr hdigit
  have hne : ∀ d rule, pieceAt d rest = rule → ¬Closes rule → c ≠ d := by
    rintro d rule rfl hrule rfl
    exact hrule h
  have hat := hne '@' _ rfl (not_closes_atPiece rest)
  have hdollar := hne '$' _ rfl (not_closes_dollarPiece rest)
  have hhash := hne '#' _ rfl (not_closes_hashPiece rest)
  have hpart : isWordPart c = false := by
    obtain ⟨hletter, hlow⟩ := Bool.or_eq_false_iff.mp hstart
    simp [isWordPart, hletter, hdigit, hat, hdollar, hhash, beq_eq_false_iff_ne.mp hlow]
  refine ⟨⟨hpart, hne '\'' _ rfl (not_closes_quotedText rest), hne '"' _ rfl (not_closes_quotedWord '"' rest)⟩, hdigit, ?_⟩
  -- Apart from the point, these are letters.
  intro hmem
  have hletters : ['e', 'E', 'x', 'L'].all isWordStart = true := by decide
  rcases List.mem_cons.mp hmem with hc | hc
  · exact hpoint hc
  · exact absurd (List.all_eq_true.mp hletters c hc) (by rw [hstart]; decide)

theorem ends_of_cuts {after : List Char} (h : Cuts after [.sign .rightParen]) : EndsWord after ∧ EndsNumber after := by
  have hends : ∀ c ∈ after.head?,
      (isWordPart c = false ∧ c ≠ '\'' ∧ c ≠ '"') ∧ c.isDigit = false ∧ c ∉ ['.', 'e', 'E', 'x', 'L'] := by
    intro c hc
    obtain ⟨cs, rfl⟩ := List.head?_eq_some_iff.mp hc
    obtain ⟨lexemes, hscan, htokens⟩ := h Place.start
    obtain ⟨token?, more, rest, hpiece, -, rfl⟩ := scanChars_cons hscan
    refine ends_of_closes ⟨token?, more, hpiece, ?_⟩
    rintro token rfl
    exact (List.cons.inj htokens).1
  exact ⟨fun c hc => (hends c hc).1, fun c hc => (hends c hc).2⟩

end Scan

end GeoFilter
