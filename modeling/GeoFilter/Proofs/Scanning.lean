import GeoFilter.Lexeme.Scan
import GeoFilter.Proofs.Numeral
import Mathlib.Data.List.TakeWhile

/-!
# What the lexemes of a statement are like

Every number among the lexemes of a statement is a numeral, and no two lexemes stand at the same place.
-/

namespace GeoFilter

open Decimal (splitSign readUnsigned? readExponent? readIntChars? readDigits? digitsValue)

namespace Scan

/-! ### The shape of numbers -/

def IsFraction (cs : List Char) : Prop :=
  cs = [] ∨ ∃ ds, cs = '.' :: ds ∧ ∀ d ∈ ds, d.isDigit = true

theorem isFraction_fractionChars (cs : List Char) : IsFraction (fractionChars cs) := by
  unfold fractionChars
  split
  · exact .inr ⟨_, rfl, fun d hd => List.mem_takeWhile_imp hd⟩
  · exact .inl rfl

def IsExponent (cs : List Char) : Prop :=
  cs = [] ∨ ∃ mark signs ds, cs = mark :: signs ++ ds ∧ (mark = 'e' ∨ mark = 'E') ∧
    (signs = [] ∨ signs = ['+'] ∨ signs = ['-']) ∧ ds ≠ [] ∧ ∀ d ∈ ds, d.isDigit = true

theorem isExponent_exponentChars (cs : List Char) : IsExponent (exponentChars cs) := by
  unfold exponentChars
  split
  case h_2 => exact .inl rfl
  case h_1 mark cs =>
    split
    case isFalse => exact .inl rfl
    case isTrue hmark =>
      dsimp only
      split
      case h_1 => exact .inl rfl
      case h_2 hdigits =>
        refine .inr ⟨mark, _, _, rfl, hmark, ?_, hdigits, fun d hd => List.mem_takeWhile_imp hd⟩
        split <;> simp

theorem readDigits_isSome {ds : List Char} (hds : ds ≠ []) (hdigits : ∀ d ∈ ds, d.isDigit = true) :
    readDigits? ds = some (digitsValue ds) :=
  if_pos ⟨hds, List.all_eq_true.mpr hdigits⟩

theorem splitSign_digits {ds : List Char} (hds : ds ≠ []) (hdigits : ∀ d ∈ ds, d.isDigit = true)
    (rest : List Char) :
    splitSign (ds ++ rest) = (false, ds ++ rest) := by
  cases ds with
  | nil => exact absurd rfl hds
  | cons d ds =>
    have hd := hdigits d List.mem_cons_self
    rw [List.cons_append]
    unfold splitSign
    split
    case h_1 heq =>
      cases heq
      exact absurd hd (by decide)
    case h_2 heq =>
      cases heq
      exact absurd hd (by decide)
    case h_3 => rfl

theorem readExponent_isSome {cs : List Char} (h : IsExponent cs) : ∃ e, readExponent? cs = some e := by
  rcases h with rfl | ⟨mark, signs, ds, rfl, hmark, hsigns, hne, hdigits⟩
  · exact ⟨0, rfl⟩
  · have hread : ∃ e, readIntChars? (signs ++ ds) = some e := by
      rcases hsigns with rfl | rfl | rfl
      · have hsplit := splitSign_digits hne hdigits []
        rw [List.append_nil] at hsplit
        rw [List.nil_append, readIntChars?, hsplit]
        simp [readDigits_isSome hne hdigits]
      · simp [readIntChars?, splitSign, readDigits_isSome hne hdigits]
      · simp [readIntChars?, splitSign, readDigits_isSome hne hdigits]
    obtain ⟨e, he⟩ := hread
    refine ⟨e, ?_⟩
    rw [List.cons_append, readExponent?, if_pos hmark, he]

def DigitFree (cs : List Char) : Prop :=
  ∀ c ∈ cs.head?, c.isDigit = false

theorem IsExponent.digitFree {cs : List Char} (h : IsExponent cs) : DigitFree cs := by
  rcases h with rfl | ⟨mark, signs, ds, rfl, rfl | rfl, _⟩ <;> simp [DigitFree]

/-- The front of a text of one sort is found where a character of another sort follows. -/
theorem span_append {p : Char → Bool} {cs rest : List Char} (hcs : ∀ c ∈ cs, p c = true)
    (hrest : ∀ c ∈ rest.head?, p c = false) :
    (cs ++ rest).takeWhile p = cs ∧ (cs ++ rest).dropWhile p = rest := by
  rw [List.takeWhile_append_of_pos hcs, List.dropWhile_append_of_pos hcs]
  cases rest with
  | nil => simp
  | cons c rest =>
    have hc := hrest c rfl
    simp [hc]

theorem toNat_of_isDigit {c : Char} (h : c.isDigit = true) : 48 ≤ c.toNat ∧ c.toNat ≤ 57 := by
  simp only [Char.isDigit, Bool.and_eq_true, decide_eq_true_eq] at h
  exact ⟨h.1, h.2⟩

def digitChars : List Char := ['0', '1', '2', '3', '4', '5', '6', '7', '8', '9']

theorem mem_digitChars {c : Char} (h : c.isDigit = true) : c ∈ digitChars := by
  have hrange := toNat_of_isDigit h
  have hmem : ∀ k : Fin 10, Char.ofNat (48 + k) ∈ digitChars := by decide
  have hc : c = Char.ofNat (48 + (c.toNat - 48)) := by rw [Nat.add_sub_cancel' hrange.1, Char.ofNat_toNat]
  rw [hc]
  exact hmem ⟨c.toNat - 48, by omega⟩

theorem isBlank_of_isDigit {c : Char} (h : c.isDigit = true) : Text.isBlank c = false := by
  have hrange := toNat_of_isDigit h
  simp only [Text.isBlank, Bool.or_eq_false_iff, Bool.and_eq_false_iff, decide_eq_false_iff_not,
    beq_eq_false_iff_ne]
  omega

theorem readUnsigned_parts {whole exponent : List Char} (digits : List Char) {e : Int} (hne : whole ++ digits ≠ [])
    (he : readExponent? exponent = some e) (parts : List Char × List Char)
    (hparts : parts = (digits, exponent)) :
    (if whole ++ parts.1 = [] then none
      else (readExponent? parts.2).map fun e =>
        (⟨digitsValue (whole ++ parts.1), e - parts.1.length⟩ : Decimal)) =
      some ⟨digitsValue (whole ++ digits), e - digits.length⟩ := by
  rw [hparts, if_neg hne, he]
  rfl

/-- The digits of both sides of the point are read as one number, and the exponent counts those behind the point. -/
theorem readUnsigned_of_parts {whole fraction exponent : List Char} {e : Int} (hwhole : ∀ d ∈ whole, d.isDigit = true)
    (hfraction : IsFraction fraction) (hexponent : IsExponent exponent) (hne : whole ++ fraction.tail ≠ [])
    (he : readExponent? exponent = some e) :
    readUnsigned? (whole ++ fraction ++ exponent) =
      some ⟨digitsValue (whole ++ fraction.tail), e - fraction.tail.length⟩ := by
  rcases hfraction with rfl | ⟨ds, rfl, hds⟩
  · obtain ⟨htake, hdrop⟩ := span_append hwhole hexponent.digitFree
    rw [List.append_nil, readUnsigned?, htake, hdrop]
    refine readUnsigned_parts [] hne he _ ?_
    -- An exponent never starts with a point.
    rcases hexponent with rfl | ⟨mark, signs, ds, rfl, rfl | rfl, _⟩ <;> rfl
  · rw [List.append_assoc, List.cons_append]
    have hpoint : DigitFree ('.' :: (ds ++ exponent)) := by simp [DigitFree]
    obtain ⟨htake, hdrop⟩ := span_append hwhole hpoint
    obtain ⟨htake', hdrop'⟩ := span_append hds hexponent.digitFree
    rw [readUnsigned?, htake, hdrop]
    exact readUnsigned_parts ds hne he _ (Prod.ext htake' hdrop')

/-- Digits, perhaps a point among them or beside them, and perhaps an exponent are a numeral. -/
theorem numeral_of_parts {whole fraction exponent : List Char} (hwhole : ∀ d ∈ whole, d.isDigit = true)
    (hfraction : IsFraction fraction) (hexponent : IsExponent exponent) (hdigit : whole = [] → fraction ≠ [] ∧ fraction ≠ ['.']) :
    Numeral (whole ++ fraction ++ exponent) := by
  obtain ⟨e, he⟩ := readExponent_isSome hexponent
  have hsolid : ∀ ds : List Char, (∀ d ∈ ds, d.isDigit = true) → ∀ d ∈ ds, Text.isBlank d = false :=
    fun ds hds d hd => isBlank_of_isDigit (hds d hd)
  have hfraction' : ∀ c ∈ fraction, Text.isBlank c = false := by
    rcases hfraction with rfl | ⟨ds, rfl, hds⟩
    · exact List.forall_mem_nil _
    · exact List.forall_mem_cons.mpr ⟨by decide, hsolid ds hds⟩
  have hexponent' : ∀ c ∈ exponent, Text.isBlank c = false := by
    rcases hexponent with rfl | ⟨mark, signs, ds, rfl, hmark, hsigns, _, hds⟩
    · exact List.forall_mem_nil _
    · rw [List.cons_append]
      refine List.forall_mem_cons.mpr ⟨?_, List.forall_mem_append.mpr ⟨?_, hsolid ds hds⟩⟩
      · rcases hmark with rfl | rfl <;> decide
      · rcases hsigns with rfl | rfl | rfl
        · exact List.forall_mem_nil _
        · exact List.forall_mem_singleton.mpr (by decide)
        · exact List.forall_mem_singleton.mpr (by decide)
  have hne : whole ++ fraction.tail ≠ [] := by
    intro hnil
    obtain ⟨hwhole, htail⟩ := List.append_eq_nil_iff.mp hnil
    rcases hfraction with rfl | ⟨ds, rfl, _⟩
    · exact (hdigit hwhole).1 rfl
    · obtain rfl : ds = [] := htail
      exact (hdigit hwhole).2 rfl
  refine ⟨⟨_, readUnsigned_of_parts hwhole hfraction hexponent hne he⟩, ?_, ?_⟩
  · by_cases hnil : whole = []
    · subst hnil
      rcases hfraction with rfl | ⟨ds, rfl, _⟩
      · exact absurd rfl (hdigit rfl).1
      · rfl
    · rw [List.append_assoc]
      exact splitSign_digits hnil hwhole _
  · exact List.forall_mem_append.mpr ⟨List.forall_mem_append.mpr ⟨hsolid whole hwhole, hfraction'⟩, hexponent'⟩

/-! ### Numbers and words among the pieces -/

/-- Whether a word without quotes starts with some characters: a letter or an underscore, or one or two marks and any
character that makes no sign with them. -/
def StartsWord (start : List Char) : Prop :=
  (∃ c, start = [c] ∧ isWordStart c = true) ∨ (∃ c, start = ['@', c] ∧ c ∉ [' ', '>', '?', '@']) ∨
    (∃ c, start = ['@', '@', c] ∧ c ≠ ' ') ∨ ∃ c, start = ['#', c] ∧ c ∉ [' ', '-', '>']

/-- Whether some characters are those of a word without quotes. -/
def IsUnquoted (cs : List Char) : Prop :=
  ∃ start more, cs = start ++ more ∧ StartsWord start ∧ ∀ c ∈ more, isWordPart c = true

/-- Whether a token is as texts are cut: a number is a numeral, and a word without quotes has the characters of one. -/
def IsCut : Token → Prop
  | .number text _ => Numeral text.toList
  | .word text none => IsUnquoted text.toList
  | _ => True

/-- Whether a token, if that is what a rule answers, is as texts are cut. -/
def AnswersCut (r : Except ScanFault Piece) : Prop :=
  ∀ token more, r = .ok (some token, more) → IsCut token

theorem answersCut_error (fault : ScanFault) : AnswersCut (.error fault) := by
  intro token more h
  cases h

theorem answersCut_blank (more : Nat) : AnswersCut (.ok (none, more)) := by
  intro token more' h
  cases h

theorem answersCut_piece {token : Token} (h : IsCut token) (more : Nat) : AnswersCut (piece token more) := by
  intro token' more' hpiece
  cases hpiece
  exact h

theorem answersCut_other (spelling : List Char) (more : Nat) : AnswersCut (otherPiece spelling more) :=
  answersCut_piece (by trivial) more

theorem answersCut_wordFrom {start : List Char} (h : StartsWord start) (rest : List Char) :
    AnswersCut (wordFrom start rest) := by
  refine answersCut_piece ?_ _
  rw [IsCut, String.toList_ofList]
  exact ⟨start, _, rfl, h, fun c hc => List.mem_takeWhile_imp hc⟩

theorem answersCut_quotedWord (quote : Char) (rest : List Char) :
    AnswersCut (quotedWord quote rest) := by
  unfold quotedWord
  split
  · exact answersCut_piece (by trivial) _
  · exact answersCut_error _

theorem answersCut_quotedText (rest : List Char) : AnswersCut (quotedText rest) := by
  unfold quotedText
  split
  · exact answersCut_piece (by trivial) _
  · exact answersCut_error _

theorem answersCut_prefixedText (shown quote shownQuote : Char) (rest : List Char) :
    AnswersCut (prefixedText shown quote shownQuote rest) := by
  unfold prefixedText
  split
  · exact answersCut_other _ _
  · exact answersCut_error _

theorem answersCut_escapedText (rest : List Char) : AnswersCut (escapedText rest) := by
  unfold escapedText
  split
  · exact answersCut_other _ _
  · exact answersCut_error _

theorem answersCut_wordOrMarkedText {c : Char} (hc : isWordStart c = true) (rest : List Char) :
    AnswersCut (wordOrMarkedText c rest) := by
  unfold wordOrMarkedText
  split <;> first
    | exact answersCut_prefixedText _ _ _ _
    | exact answersCut_escapedText _
    | exact answersCut_wordFrom (.inl ⟨c, rfl, hc⟩) _

theorem answersCut_dollarPiece (rest : List Char) : AnswersCut (dollarPiece rest) := by
  unfold dollarPiece
  dsimp only
  repeat' split
  all_goals first | exact answersCut_other _ _ | exact answersCut_error _

theorem answersCut_atPiece (rest : List Char) : AnswersCut (atPiece rest) := by
  unfold atPiece
  split
  case h_5 cs =>
    split
    case h_3 c rest hblank => exact answersCut_wordFrom (.inr (.inr (.inl ⟨c, rfl, hblank⟩))) _
    all_goals exact answersCut_other _ _
  case h_6 c rest hblank hmore hask hat =>
    refine answersCut_wordFrom (.inr (.inl ⟨c, rfl, ?_⟩)) _
    simp only [List.mem_cons, List.not_mem_nil, or_false, not_or]
    exact ⟨hblank, hmore, hask, hat⟩
  all_goals exact answersCut_other _ _

theorem answersCut_hashPiece (rest : List Char) : AnswersCut (hashPiece rest) := by
  unfold hashPiece
  split
  case h_6 c rest hblank hminus _ hmore =>
    refine answersCut_wordFrom (.inr (.inr (.inr ⟨c, rfl, ?_⟩))) _
    simp only [List.mem_cons, List.not_mem_nil, or_false, not_or]
    exact ⟨hblank, hminus, hmore⟩
  all_goals exact answersCut_other _ _

theorem answersCut_signPiece (c : Char) (rest : List Char) : AnswersCut (signPiece c rest) := by
  unfold signPiece
  split
  · exact answersCut_other _ _
  · split
    · exact answersCut_piece (by trivial) _
    · exact answersCut_other _ _

theorem answersCut_numberOrPeriod {c : Char} (hc : c.isDigit = true ∨ c = '.') (rest : List Char) :
    AnswersCut (numberOrPeriod (c :: rest)) := by
  unfold numberOrPeriod
  dsimp only
  split
  · exact answersCut_other _ _
  · split
    case isTrue => exact answersCut_piece (by trivial) _
    case isFalse hperiod =>
      refine answersCut_piece ?_ _
      rw [IsCut, String.toList_ofList]
      refine numeral_of_parts (fun d hd => List.mem_takeWhile_imp hd) (isFraction_fractionChars _)
        (isExponent_exponentChars _) fun hwhole => ⟨?_, fun hfraction => hperiod ⟨hwhole, hfraction⟩⟩
      -- Without a digit in front the piece starts with its point.
      rcases hc with hc | rfl
      · rw [List.takeWhile_cons_of_pos hc] at hwhole
        cases hwhole
      · rw [List.dropWhile_cons_of_neg (by decide)]
        exact List.cons_ne_nil _ _

theorem answersCut_pieceAt (c : Char) (rest : List Char) : AnswersCut (pieceAt c rest) := by
  unfold pieceAt
  split
  case isTrue hc => exact answersCut_wordOrMarkedText hc rest
  case isFalse =>
    split
    case isTrue hc => exact answersCut_numberOrPeriod hc rest
    case isFalse =>
      split
      · exact answersCut_blank 0
      · split
        · exact answersCut_quotedText _
        · exact answersCut_quotedWord _ _
        · exact answersCut_quotedWord _ _
        · exact answersCut_dollarPiece _
        · exact answersCut_atPiece _
        · exact answersCut_hashPiece _
        · exact answersCut_other _ _
        · exact answersCut_blank _
        · unfold blockComment
          split
          · exact answersCut_blank _
          · exact answersCut_error _
        · exact answersCut_signPiece _ _

/-! ### Lexemes -/

/-- The lexeme that a piece is, before the lexemes that follow it. -/
def consPiece (place : Place) (token? : Option Token) (lexemes : List Lexeme) : List Lexeme :=
  match token? with
  | some token => ⟨token, place⟩ :: lexemes
  | none => lexemes

/-- A text is scanned piece by piece: its first piece, and the lexemes behind it. -/
theorem scanChars_cons {place : Place} {c : Char} {cs : List Char} {lexemes : List Lexeme}
    (h : scanChars 0 place (c :: cs) = .ok lexemes) :
    ∃ token? more rest, pieceAt c cs = .ok (token?, more) ∧
      scanChars more (place.next c) cs = .ok rest ∧ lexemes = consPiece place token? rest := by
  rw [scanChars] at h
  split at h
  case h_1 => cases h
  case h_2 token? more hpiece =>
    split at h
    case h_1 => cases h
    case h_2 rest hrest =>
      refine ⟨token?, more, rest, hpiece, hrest, ?_⟩
      unfold consPiece
      cases token? with
      | none => exact (Except.ok.inj h).symm
      | some token => exact (Except.ok.inj h).symm

theorem isCut_of_scanChars {skip : Nat} {place : Place} {cs : List Char} {lexemes : List Lexeme}
    (h : scanChars skip place cs = .ok lexemes) : ∀ l ∈ lexemes, IsCut l.token := by
  induction cs generalizing skip place lexemes with
  | nil =>
    rw [scanChars] at h
    cases h
    exact List.forall_mem_nil _
  | cons c cs ih =>
    cases skip with
    | succ skip =>
      rw [scanChars] at h
      exact ih h
    | zero =>
      obtain ⟨token?, more, rest, hpiece, hrest, rfl⟩ := scanChars_cons h
      cases token? with
      | none => exact ih hrest
      | some token => exact List.forall_mem_cons.mpr ⟨answersCut_pieceAt c cs token more hpiece, ih hrest⟩

end Scan

namespace Place

def Before (p q : Place) : Prop :=
  p.line < q.line ∨ p.line = q.line ∧ p.column < q.column

theorem Before.trans {p q r : Place} (h : p.Before q) (h' : q.Before r) : p.Before r := by
  unfold Before at *
  omega

theorem Before.ne {p q : Place} (h : p.Before q) : p ≠ q := by
  rintro rfl
  unfold Before at h
  omega

theorem before_next (p : Place) (c : Char) : p.Before (p.next c) := by
  unfold Before next
  split
  · exact .inl (Nat.lt_succ_self _)
  · exact .inr ⟨rfl, Nat.lt_succ_self _⟩

end Place

namespace Scan

/-- The lexemes of a text stand one after the other, the first at the earliest where the text starts. -/
theorem ordered_of_scanChars {skip : Nat} {place : Place} {cs : List Char} {lexemes : List Lexeme}
    (h : scanChars skip place cs = .ok lexemes) :
    (∀ l ∈ lexemes, place = l.place ∨ place.Before l.place) ∧
      lexemes.Pairwise fun l l' => l.place.Before l'.place := by
  induction cs generalizing skip place lexemes with
  | nil =>
    rw [scanChars] at h
    cases h
    exact ⟨List.forall_mem_nil _, .nil⟩
  | cons c cs ih =>
    have hlater : ∀ l : Lexeme, (place.next c = l.place ∨ (place.next c).Before l.place) →
        place.Before l.place := by
      rintro l (hl | hl)
      · rw [← hl]
        exact place.before_next c
      · exact (place.before_next c).trans hl
    cases skip with
    | succ skip =>
      rw [scanChars] at h
      obtain ⟨hplaces, hordered⟩ := ih h
      exact ⟨fun l hl => .inr (hlater l (hplaces l hl)), hordered⟩
    | zero =>
      obtain ⟨token?, more, rest, _, hrest, rfl⟩ := scanChars_cons h
      obtain ⟨hplaces, hordered⟩ := ih hrest
      cases token? with
      | none => exact ⟨fun l hl => .inr (hlater l (hplaces l hl)), hordered⟩
      | some token =>
        refine ⟨List.forall_mem_cons.mpr ⟨.inl rfl, fun l hl => .inr (hlater l (hplaces l hl))⟩, ?_⟩
        exact List.pairwise_cons.mpr ⟨fun l hl => hlater l (hplaces l hl), hordered⟩

end Scan

end GeoFilter
