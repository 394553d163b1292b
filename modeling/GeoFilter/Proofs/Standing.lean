import GeoFilter.Proofs.Scanning

/-!
# Where lexemes stand

A lexeme stands in a text where the text in front of it ends: the rule for its first character answers its token, and how
many of the characters behind belong to it.  The lexemes of a text stand one behind the other, with nothing or with blanks
and comments between them, and behind each of them scanning goes on by itself.
-/

namespace GeoFilter

namespace Place

theorem after_append (p : Place) (cs ds : List Char) : p.after (cs ++ ds) = (p.after cs).after ds :=
  List.foldl_append

theorem before_after (p : Place) {cs : List Char} (h : cs ≠ []) : p.Before (p.after cs) := by
  induction cs generalizing p with
  | nil => exact absurd rfl h
  | cons c cs ih =>
    by_cases hcs : cs = []
    · subst hcs
      exact p.before_next c
    · exact (p.before_next c).trans (ih (p.next c) hcs)

/-- Of the texts in front of the characters of a text, only one ends at a place. -/
theorem eq_of_after_eq {p : Place} {cs ds text : List Char} (hcs : cs <+: text) (hds : ds <+: text)
    (h : p.after cs = p.after ds) : cs = ds := by
  have hextends : ∀ {cs ds : List Char}, cs <+: ds → p.after cs = p.after ds → cs = ds := by
    rintro cs _ ⟨more, rfl⟩ hplace
    by_cases hmore : more = []
    · rw [hmore, List.append_nil]
    · rw [after_append] at hplace
      exact absurd hplace ((p.after cs).before_after hmore).ne
  rcases List.prefix_or_prefix_of_prefix hcs hds with hprefix | hprefix
  · exact hextends hprefix h
  · exact (hextends hprefix h.symm).symm

end Place

namespace Scan

/-- How a lexeme stands in a text that starts at a place. -/
structure Standing (start : Place) (text : List Char) (l : Lexeme) where
  /-- What stands in front of it. -/
  before : List Char
  /-- Its first character. -/
  first : Char
  /-- What stands behind its first character. -/
  behind : List Char
  /-- How many characters behind the first one belong to it. -/
  more : Nat
  text_eq : text = before ++ first :: behind
  place_eq : l.place = start.after before
  piece_eq : pieceAt first behind = .ok (some l.token, more)

namespace Standing

variable {start : Place} {text behind : List Char} {l l' : Lexeme}

def chars (s : Standing start text l) : List Char := s.first :: s.behind.take s.more

/-- A lexeme of the text behind some characters stands in the whole. -/
def shift {pre : List Char} (s : Standing (start.after pre) behind l) (htext : text = pre ++ behind) :
    Standing start text l where
  before := pre ++ s.before
  first := s.first
  behind := s.behind
  more := s.more
  text_eq := by rw [List.append_assoc, ← s.text_eq, htext]
  place_eq := by rw [s.place_eq, Place.after_append]
  piece_eq := s.piece_eq

theorem before_prefix (s : Standing start text l) : s.before <+: text :=
  ⟨s.first :: s.behind, s.text_eq.symm⟩

theorem chars_prefix (s : Standing start text l) : s.before ++ s.chars <+: text := by
  have hchars : s.chars <+: s.first :: s.behind := (List.prefix_cons_inj s.first).mpr (List.take_prefix s.more s.behind)
  have hprefix : s.before ++ s.chars <+: s.before ++ s.first :: s.behind := (List.prefix_append_right_inj s.before).mpr hchars
  rwa [← s.text_eq] at hprefix

instance : Subsingleton (Standing start text l) := by
  refine ⟨fun s s' => ?_⟩
  have hbefore : s.before = s'.before :=
    Place.eq_of_after_eq s.before_prefix s'.before_prefix (s.place_eq.symm.trans s'.place_eq)
  obtain ⟨before, first, behind, more, htext, hplace, hpiece⟩ := s
  obtain ⟨before', first', behind', more', htext', hplace', hpiece'⟩ := s'
  obtain rfl : before = before' := hbefore
  obtain ⟨rfl, rfl⟩ := List.cons.inj (List.append_cancel_left (htext.symm.trans htext'))
  cases hpiece.symm.trans hpiece'
  rfl

theorem first_ne (s : Standing start text l) : s.first ≠ '\n' ∧ s.first ≠ '\r' := by
  have hpiece := s.piece_eq
  constructor
  · intro h
    rw [h] at hpiece
    cases hpiece
  · intro h
    rw [h] at hpiece
    cases hpiece

end Standing

/-- Every lexeme of a text stands in it, at the earliest where the rest of the piece before ends, and the lexemes behind it
are those of the text behind it. -/
theorem exists_standing {skip : Nat} {start : Place} {cs : List Char} {front rest : List Lexeme} {l : Lexeme}
    (h : scanChars skip start cs = .ok (front ++ l :: rest)) :
    ∃ s : Standing start cs l, cs.take skip <+: s.before ∧
      scanChars s.more (start.after (s.before ++ [s.first])) s.behind = .ok rest := by
  induction cs generalizing skip start front with
  | nil =>
    rw [scanChars] at h
    exact absurd (Except.ok.inj h).symm (List.append_ne_nil_of_right_ne_nil _ (List.cons_ne_nil l rest))
  | cons c cs ih =>
    have hlater : ∀ {skip' : Nat} {front' : List Lexeme},
        scanChars skip' (start.next c) cs = .ok (front' ++ l :: rest) →
        ∃ s : Standing start (c :: cs) l, c :: cs.take skip' <+: s.before ∧
          scanChars s.more (start.after (s.before ++ [s.first])) s.behind = .ok rest := by
      intro skip' front' hmore
      obtain ⟨s, hskip, hrest⟩ := ih hmore
      let later : Standing (start.after [c]) cs l := s
      have htext : c :: cs = [c] ++ cs := rfl
      exact ⟨later.shift htext, (List.prefix_append_right_inj [c]).mpr hskip, hrest⟩
    cases skip with
    | succ skip =>
      rw [scanChars] at h
      exact hlater h
    | zero =>
      obtain ⟨token?, more, rest', hpiece, hrest, hlexemes⟩ := scanChars_cons h
      have hnone : ∀ {front' : List Lexeme}, rest' = front' ++ l :: rest → ∃ s : Standing start (c :: cs) l,
          (c :: cs).take 0 <+: s.before ∧
            scanChars s.more (start.after (s.before ++ [s.first])) s.behind = .ok rest := by
        intro front' hfront
        obtain ⟨s, _, hmore⟩ := hlater (hfront ▸ hrest)
        exact ⟨s, List.nil_prefix, hmore⟩
      cases token? with
      | none => exact hnone hlexemes.symm
      | some token =>
        rcases front with _ | ⟨l', front⟩
        · obtain ⟨rfl, rfl⟩ := List.cons.inj hlexemes
          exact ⟨⟨[], c, cs, more, rfl, rfl, hpiece⟩, List.nil_prefix, hrest⟩
        · exact hnone (List.cons.inj hlexemes).2.symm

theorem Standing.scanChars_behind {start : Place} {cs : List Char} {front rest : List Lexeme} {l : Lexeme}
    (s : Standing start cs l) (h : scanChars 0 start cs = .ok (front ++ l :: rest)) :
    scanChars s.more (start.after (s.before ++ [s.first])) s.behind = .ok rest := by
  obtain ⟨s', _, hrest⟩ := exists_standing h
  rwa [Subsingleton.elim s s']

theorem scanChars_of_place {start : Place} {before cs : List Char} {front rest : List Lexeme} {l : Lexeme}
    (h : scanChars 0 start (before ++ cs) = .ok (front ++ l :: rest)) (hplace : l.place = start.after before) :
    scanChars 0 l.place cs = .ok (l :: rest) := by
  obtain ⟨s, -, -⟩ := exists_standing h
  have hbefore : s.before = before :=
    Place.eq_of_after_eq s.before_prefix (List.prefix_append before cs) (s.place_eq.symm.trans hplace)
  have hcs : cs = s.first :: s.behind := by
    have htext := s.text_eq
    rw [hbefore] at htext
    exact List.append_cancel_left htext
  have hbehind : scanChars s.more (l.place.next s.first) s.behind = .ok rest := by
    have hnext := s.scanChars_behind h
    rw [Place.after_append, ← s.place_eq] at hnext
    exact hnext
  rw [hcs, scanChars, s.piece_eq]
  dsimp only
  rw [hbehind]

end Scan

end GeoFilter
