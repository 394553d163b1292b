import GeoFilter.Proofs.Rereading.Tree
import GeoFilter.Text.Quoted

/-!
# Shown words and texts are cut again

A word of a statement is cut as the same word wherever it stands alone, a text between single quotes as that text, and
the signs between words as themselves.
-/

namespace GeoFilter.Scan

/-! ### Words -/

theorem wordFrom_append {start more rest : List Char} (hmore : ∀ c ∈ more, isWordPart c = true) (hrest : EndsWord rest) :
    wordFrom start (more ++ rest) =
      piece (.word (String.ofList (start ++ more)) none) (start.length - 1 + more.length) := by
  have hspan := (span_append hmore fun c hc => (hrest c hc).1).1
  rw [wordFrom, hspan]

namespace Spells

theorem unquoted {text : String} (h : IsWord text) : Spells text.toList [.word text none] EndsWord := by
  obtain ⟨start, more, htext, hstart, hmore⟩ := h
  have hword : String.ofList (start ++ more) = text := by rw [← htext, String.ofList_toList]
  have hmarked : ∀ {c : Char} {cs : List Char}, start ++ more = c :: cs → start.length - 1 + more.length = cs.length →
      (∀ rest, pieceAt c (cs ++ rest) = wordFrom start (more ++ rest)) → Spells text.toList [.word text none] EndsWord := by
    intro c cs hcs hlength hpiece
    rw [htext, hcs]
    refine piece fun rest hrest => ?_
    rw [hpiece rest, wordFrom_append hmore hrest, hword, hlength]
    rfl
  rcases hstart with ⟨c, rfl, hc⟩ | ⟨c, rfl, hc⟩ | ⟨c, rfl, hc⟩ | ⟨c, rfl, hc⟩
  · exact word ⟨c, more, htext, hc, hmore⟩
  · simp only [List.mem_cons, List.not_mem_nil, or_false, not_or] at hc
    refine hmarked rfl (Nat.add_comm _ _) fun rest => ?_
    change atPiece (c :: (more ++ rest)) = _
    unfold atPiece
    split <;> simp_all
  · refine hmarked rfl (Nat.add_comm _ _) fun rest => ?_
    change atPiece ('@' :: c :: (more ++ rest)) = _
    unfold atPiece
    simp only
  · simp only [List.mem_cons, List.not_mem_nil, or_false, not_or] at hc
    refine hmarked rfl (Nat.add_comm _ _) fun rest => ?_
    change hashPiece (c :: (more ++ rest)) = _
    unfold hashPiece
    split <;> simp_all

/-! ### Quoted texts -/

theorem quotedBody_doubleQuotes (cs : List Char) {rest : List Char} (hrest : rest.head? ≠ some '\'') :
    quotedBody '\'' (Text.doubleQuotes cs ++ '\'' :: rest) = some (cs, (Text.doubleQuotes cs).length + 1) := by
  induction cs with
  | nil =>
    rcases rest with _ | ⟨d, rest⟩
    · rfl
    · have hd : d ≠ '\'' := fun h => hrest (congrArg some h)
      simp [Text.doubleQuotes, quotedBody, hd]
  | cons c cs ih =>
    obtain ⟨d, ds, hds⟩ : ∃ d ds, Text.doubleQuotes cs ++ '\'' :: rest = d :: ds :=
      List.exists_cons_of_ne_nil (by simp)
    by_cases hc : c = '\''
    · rw [Text.doubleQuotes, if_pos hc, hc, List.cons_append, List.cons_append, quotedBody, if_pos rfl, if_pos rfl, ih]
      rfl
    · rw [Text.doubleQuotes, if_neg hc, List.cons_append, hds, quotedBody, if_neg hc, ← hds, ih]
      rfl

theorem quoted (s : String) : Spells (Text.singleQuoted s).toList [.quoted s] fun rest => rest.head? ≠ some '\'' := by
  rw [Text.singleQuoted, String.toList_ofList, List.cons_append]
  refine piece fun rest hrest => ?_
  have hpiece : ∀ cs, pieceAt '\'' cs = quotedText cs := fun _ => rfl
  rw [hpiece, List.append_assoc, List.singleton_append, quotedText, quotedBody_doubleQuotes s.toList hrest,
    List.length_append, List.length_singleton]
  dsimp only
  rw [String.ofList_toList]
  rfl

/-! ### Signs between words -/

theorem period : Spells ['.'] [.sign .period] fun rest => ∀ c ∈ rest.head?, c.isDigit = false := by
  refine piece fun rest hrest => ?_
  have hpiece : pieceAt '.' rest = numberOrPeriod ('.' :: rest) := rfl
  have hdigits : rest.takeWhile Char.isDigit = [] := (span_append (List.forall_mem_nil _) hrest).1
  rw [List.nil_append, hpiece]
  simp [numberOrPeriod, fractionChars, hdigits]
  rfl

/-- A sign of one character stands for itself in front of a character that makes no longer sign with it. -/
theorem signPiece_of_single {c : Char} {sign : Sign} {rest : List Char}
    (hcompound : longest? compoundSpellings (c :: rest) = none)
    (hsign : signSpellings.find? (fun s => s.1.toList.isPrefixOf (c :: rest)) = some (String.ofList [c], sign)) :
    signPiece c rest = .ok (some (.sign sign), 0) := by
  rw [signPiece, hcompound]
  dsimp only
  rw [hsign]
  dsimp only
  rw [String.length_ofList]
  rfl

theorem colon : Spells [':'] [.sign .colon] fun rest => ∀ c ∈ rest.head?, c ≠ ':' ∧ c ≠ '=' := by
  refine piece fun rest hrest => ?_
  rcases rest with _ | ⟨d, rest⟩
  · rfl
  · obtain ⟨hcolon, hequal⟩ := hrest d rfl
    have hd : (':' == d) = false := beq_eq_false_iff_ne.mpr hcolon.symm
    have hd' : ('=' == d) = false := beq_eq_false_iff_ne.mpr hequal.symm
    refine signPiece_of_single ?_ rfl
    simp [longest?, compoundSpellings, List.isPrefixOf, hd, hd']

theorem equal : Spells ['='] [.sign .equal] fun rest => ∀ c ∈ rest.head?, c ≠ '=' ∧ c ≠ '>' := by
  refine piece fun rest hrest => ?_
  rcases rest with _ | ⟨d, rest⟩
  · rfl
  · obtain ⟨hequal, hmore⟩ := hrest d rfl
    have hd : ('=' == d) = false := beq_eq_false_iff_ne.mpr hequal.symm
    have hd' : ('>' == d) = false := beq_eq_false_iff_ne.mpr hmore.symm
    refine signPiece_of_single ?_ rfl
    simp [longest?, compoundSpellings, List.isPrefixOf, hd, hd']

end Spells

end GeoFilter.Scan

namespace GeoFilter

open Scan (Spells EndsWord isWordStart)

/-! ### Attributes -/

/-- A word starts with no digit and with none of the signs that go on after a colon. -/
theorem IsWord.head {text : String} (h : IsWord text) :
    ∃ c cs, text.toList = c :: cs ∧ c.isDigit = false ∧ c ≠ ':' ∧ c ≠ '=' := by
  obtain ⟨start, more, htext, hstart, _⟩ := h
  rcases hstart with ⟨c, rfl, hc⟩ | ⟨c, rfl, _⟩ | ⟨c, rfl, _⟩ | ⟨c, rfl, _⟩
  · have hdigit : c.isDigit = false := by
      refine Bool.eq_false_iff.mpr fun hd => ?_
      rw [Scan.isWordStart_of_isDigit hd] at hc
      cases hc
    refine ⟨c, more, htext, hdigit, ?_, ?_⟩
    · rintro rfl
      exact absurd hc (by decide)
    · rintro rfl
      exact absurd hc (by decide)
  · exact ⟨_, _, htext, by decide, by decide, by decide⟩
  · exact ⟨_, _, htext, by decide, by decide, by decide⟩
  · exact ⟨_, _, htext, by decide, by decide, by decide⟩

def NamePart.chars : NamePart → List Char
  | point text _ => '.' :: text.toList
  | colon text _ => ':' :: text.toList

theorem NamePart.segments_ne_nil (current : String) (more : List NamePart) : NamePart.segments current more ≠ [] := by
  induction more generalizing current with
  | nil => exact List.cons_ne_nil _ _
  | cons part more ih =>
    cases part with
    | point => exact List.cons_ne_nil _ _
    | colon => exact ih _

theorem NamePart.toList_segments (current : String) (more : List NamePart) :
    (".".intercalate (NamePart.segments current more)).toList = current.toList ++ more.flatMap NamePart.chars := by
  induction more generalizing current with
  | nil => simp [NamePart.segments]
  | cons part more ih =>
    cases part with
    | point text quote =>
      have hmore := ih text
      obtain ⟨name, names, hnames⟩ := List.exists_cons_of_ne_nil (NamePart.segments_ne_nil text more)
      rw [hnames, String.toList_intercalate] at hmore
      rw [NamePart.segments, hnames, String.toList_intercalate, List.map_cons, List.map_cons,
        List.intercalate_cons_cons, ← List.map_cons, hmore, List.flatMap_cons, NamePart.chars]
      simp
    | colon text quote =>
      rw [NamePart.segments, ih, List.flatMap_cons, NamePart.chars]
      simp

theorem NamePart.spells {part : NamePart} (h : part.IsPlain) : Spells part.chars part.tokens EndsWord := by
  have hword : ∀ {text : String}, IsWord text → ∀ rest, ∀ c ∈ (text.toList ++ rest).head?,
      c.isDigit = false ∧ c ≠ ':' ∧ c ≠ '=' := by
    intro text hword rest c hc
    obtain ⟨d, ds, htext, hd⟩ := hword.head
    rw [htext] at hc
    cases hc
    exact hd
  cases part with
  | point text quote =>
    obtain ⟨rfl, htext⟩ := h
    exact Spells.period.append (.unquoted htext) fun rest _ c hc => (hword htext rest c hc).1
  | colon text quote =>
    obtain ⟨rfl, htext⟩ := h
    exact Spells.colon.append (.unquoted htext) fun rest _ c hc => (hword htext rest c hc).2

theorem NamePart.endsWord {more : List NamePart} {rest : List Char} (hrest : EndsWord rest) :
    EndsWord (more.flatMap NamePart.chars ++ rest) := by
  rcases more with _ | ⟨part, more⟩
  · exact hrest
  · rintro c hc
    cases part <;> cases hc <;> decide

theorem NamePart.spells_all {more : List NamePart} (h : ∀ part ∈ more, part.IsPlain) :
    Spells (more.flatMap NamePart.chars) (more.flatMap NamePart.tokens) EndsWord := by
  induction more with
  | nil => exact .nil
  | cons part more ih =>
    obtain ⟨hpart, hmore⟩ := List.forall_mem_cons.mp h
    rw [List.flatMap_cons, List.flatMap_cons]
    exact (NamePart.spells hpart).append (ih hmore) fun rest hrest => NamePart.endsWord hrest

theorem PropertyPath.StartsWith.spells {path : PropertyPath} {first : String} (h : path.StartsWith first) :
    ∃ more : List NamePart, path.segments = NamePart.segments first more ∧
      Spells path.toText.toList (.word first none :: more.flatMap NamePart.tokens) EndsWord := by
  obtain ⟨hfirst, more, hsegments, hmore⟩ := h
  refine ⟨more, hsegments, ?_⟩
  have hspells := (Spells.unquoted hfirst).append (NamePart.spells_all hmore) fun rest hrest => NamePart.endsWord hrest
  rwa [PropertyPath.toText, hsegments, NamePart.toList_segments]

end GeoFilter
