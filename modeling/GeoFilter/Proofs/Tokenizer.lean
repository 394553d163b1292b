import GeoFilter.Proofs.Standing
import Mathlib.Data.List.Nodup

/-!
# What is known of the lexemes of a statement

Everything that proofs rely on once a statement is cut into lexemes: what numbers and words without quotes are made of,
that the lexemes stand one behind the other in the text, each where its place says, and that a text is cut from a lexeme
on as it is by itself.  Another tokenizer with the same facts changes only this module.
-/

namespace GeoFilter

/-- What is relied on of a tokenizer, which cuts a text that starts at a place. -/
structure LawfulTokenizer (tokenize : Place → List Char → Except String (List Lexeme)) : Prop where
  cut : ∀ {start text L}, tokenize start text = .ok L → ∀ l ∈ L, Scan.IsCut l.token
  ordered : ∀ {start text L}, tokenize start text = .ok L → L.Pairwise fun l l' => l.place.Before l'.place
  standing : ∀ {start text L}, tokenize start text = .ok L → ∀ l ∈ L, Nonempty (Scan.Standing start text l)
  resumed : ∀ {start before text front l rest}, tokenize start (before ++ text) = .ok (front ++ l :: rest) →
    l.place = start.after before → tokenize l.place text = .ok (l :: rest)

namespace LawfulTokenizer

variable {tokenize : Place → List Char → Except String (List Lexeme)} (h : LawfulTokenizer tokenize) {start : Place}
  {text : List Char} {L : List Lexeme} (hL : tokenize start text = .ok L)

include h hL

theorem numeral {l : Lexeme} (hl : l ∈ L) {number : String} {long : Bool} (htoken : l.token = .number number long) :
    Numeral number.toList := by
  have hcut := h.cut hL l hl
  rwa [htoken] at hcut

theorem nodup : (L.map Lexeme.place).Nodup :=
  List.pairwise_map.mpr ((h.ordered hL).imp fun hbefore => hbefore.ne)

end LawfulTokenizer

theorem lawful_scanChars : LawfulTokenizer (Scan.scanChars 0) where
  cut := Scan.isCut_of_scanChars
  ordered hL := (Scan.ordered_of_scanChars hL).2
  standing hL l hl := by
    obtain ⟨front, rest, rfl⟩ := List.append_of_mem hl
    obtain ⟨s, -, -⟩ := Scan.exists_standing hL
    exact ⟨s⟩
  resumed := Scan.scanChars_of_place

section Statement

variable {statement : String} {L : List Lexeme} (h : scan statement = .ok L)

include h

theorem scanChars_of_scan : Scan.scanChars 0 Place.start statement.toList = .ok L := by
  unfold scan at h
  split at h
  case h_1 rest hrest =>
    cases h
    exact hrest
  case h_2 => cases h

theorem isCut_of_scan : ∀ l ∈ L, Scan.IsCut l.token :=
  lawful_scanChars.cut (scanChars_of_scan h)

theorem numeral_of_scan : ∀ l ∈ L, ∀ text long, l.token = .number text long → Numeral text.toList :=
  fun _ hl _ _ => lawful_scanChars.numeral (scanChars_of_scan h) hl

theorem standing_of_scan {l : Lexeme} (hl : l ∈ L) : Nonempty (Scan.Standing Place.start statement.toList l) :=
  lawful_scanChars.standing (scanChars_of_scan h) l hl

theorem nodup_places : (L.map Lexeme.place).Nodup :=
  lawful_scanChars.nodup (scanChars_of_scan h)

theorem eq_of_place_eq {l l' : Lexeme} (hl : l ∈ L) (hl' : l' ∈ L) (hplace : l.place = l'.place) : l = l' :=
  List.inj_on_of_nodup_map (nodup_places h) hl hl' hplace

end Statement

end GeoFilter
