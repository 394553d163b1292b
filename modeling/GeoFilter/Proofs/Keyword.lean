import GeoFilter.Lexeme

/-!
# Words and their case

A word whose upper case is TRUE is written with the letters of "true" alone, in any case: no other letters have
one of these as their upper case.  No word whose upper case is FALSE is written like that.  A word that is another
one up to the case of ASCII letters is the same keyword.
-/

namespace GeoFilter

namespace Text

theorem toLower_of_not_capital {c : Char} (h : ¬(65 ≤ c.toNat ∧ c.toNat ≤ 90)) : c.toLower = c := by
  delta Char.toLower
  exact dif_neg h

theorem toLower_capital {upper c : Char} (h : upper.toNat + 32 = c.toNat) (hlow : 97 ≤ c.toNat)
    (hhigh : c.toNat ≤ 122) : upper.toLower = c.toLower := by
  have hc : c.toLower = c := toLower_of_not_capital (by omega)
  have hlow' : 65 ≤ upper.toNat := by omega
  have hhigh' : upper.toNat ≤ 90 := by omega
  rw [hc]
  refine (dif_pos ⟨hlow', hhigh'⟩).trans ?_
  apply Char.ext
  apply UInt32.toNat_inj.mp
  change (upper.val + 32).toNat = c.toNat
  rw [UInt32.toNat_add]
  have h32 : (32 : UInt32).toNat = 32 := rfl
  have hupper : upper.val.toNat = upper.toNat := rfl
  omega

theorem toLower_toUpper (c : Char) : c.toUpper.toLower = c.toLower := by
  unfold Char.toUpper
  split
  case isFalse => rfl
  case isTrue h =>
    have hlow : 97 ≤ c.toNat := h.1
    have hhigh : c.toNat ≤ 122 := h.2
    refine toLower_capital ?_ hlow hhigh
    change (c.val + 4294967264).toNat + 32 = c.toNat
    rw [UInt32.toNat_add]
    have hshift : (4294967264 : UInt32).toNat = 4294967264 := rfl
    have hc : c.val.toNat = c.toNat := rfl
    omega

/-- The upper case of a character is a single one, or starts with one of three letters. -/
theorem latinUpper_cases (c : Char) :
    latinUpper c = [c.toUpper] ∨ ∃ d ds, latinUpper c = d :: ds ∧ d ∈ ['S', 'I', 'F'] ∧ c.toLower = c := by
  unfold latinUpper
  split
  case h_11 => exact .inl rfl
  all_goals exact .inr ⟨_, _, rfl, by decide, by decide⟩

theorem map_toUpper_of_upperCased {cs ds : List Char} (h : cs.flatMap latinUpper = ds)
    (hds : ∀ d ∈ ds, d ∉ ['S', 'I', 'F']) : cs.map Char.toUpper = ds := by
  induction cs generalizing ds with
  | nil => exact h
  | cons c cs ih =>
    rw [List.flatMap_cons] at h
    subst h
    rcases latinUpper_cases c with hupper | ⟨d, ds, hupper, hd, _⟩
    · rw [hupper, List.singleton_append] at hds ⊢
      rw [List.map_cons, ih rfl fun d hd => hds d (List.mem_cons_of_mem _ hd)]
    · rw [hupper] at hds
      exact absurd hd (hds d List.mem_cons_self)

/-- What is the same for the capitals and the small letters is the same for a character and its lower case. -/
theorem eq_of_capitals {f : Char → α}
    (h : ∀ n : Fin 26, f (Char.ofNat (65 + n)).toLower = f (Char.ofNat (65 + n))) (c : Char) : f c.toLower = f c := by
  by_cases hcapital : 65 ≤ c.toNat ∧ c.toNat ≤ 90
  · have hc : Char.ofNat (65 + (c.toNat - 65)) = c := by
      rw [Nat.add_sub_cancel' hcapital.1, Char.ofNat_toNat]
    have hsame := h ⟨c.toNat - 65, by omega⟩
    rwa [hc] at hsame
  · have hsmall : c.toLower = c := dif_neg hcapital
    rw [hsmall]

theorem latinUpper_toLower (c : Char) : latinUpper c.toLower = latinUpper c := eq_of_capitals (by decide) c

theorem latinLower_toLower (c : Char) : latinLower c.toLower = latinLower c := eq_of_capitals (by decide) c

theorem toUpper_toLower (c : Char) : c.toLower.toUpper = c.toUpper := eq_of_capitals (by decide) c

theorem upperCased_of_same {text word : String} (h : sameIgnoringAsciiCase text word = true) :
    upperCased text = upperCased word := by
  have hupper : ∀ cs : List Char, (cs.map Char.toLower).flatMap latinUpper = cs.flatMap latinUpper := by
    intro cs
    have hcase : (fun c : Char => latinUpper c.toLower) = latinUpper := funext latinUpper_toLower
    rw [List.flatMap_map, hcase]
  have hlower : text.toList.map Char.toLower = word.toList.map Char.toLower := beq_iff_eq.mp h
  rw [upperCased, ← hupper, hlower, hupper, upperCased]

end Text

theorem Text.same_true {text : String} (h : Text.upperCased text = "TRUE") :
    Text.sameIgnoringAsciiCase text "true" = true := by
  have hchars : text.toList.flatMap latinUpper = ['T', 'R', 'U', 'E'] := by
    have hlist := congrArg String.toList h
    rwa [upperCased, String.toList_ofList] at hlist
  have hlower : (text.toList.map Char.toUpper).map Char.toLower = text.toList.map Char.toLower := by
    rw [List.map_map]
    exact List.map_congr_left fun c _ => toLower_toUpper c
  rw [sameIgnoringAsciiCase, ← hlower, map_toUpper_of_upperCased hchars (by simp)]
  rfl

theorem Text.not_same_true {text : String} (h : Text.upperCased text = "FALSE") :
    Text.sameIgnoringAsciiCase text "true" = false := by
  refine Bool.eq_false_iff.mpr fun hsame => ?_
  have hlower : text.toList.map Char.toLower = ['t', 'r', 'u', 'e'] := beq_iff_eq.mp hsame
  have hchars : text.toList.flatMap latinUpper = ['F', 'A', 'L', 'S', 'E'] := by
    have hlist := congrArg String.toList h
    rwa [upperCased, String.toList_ofList] at hlist
  obtain ⟨c, cs, hcs, hc, _⟩ := List.map_eq_cons_iff.mp hlower
  rw [hcs, List.flatMap_cons] at hchars
  -- The first letter is a t, and so is not the start of FALSE.
  rcases latinUpper_cases c with hupper | ⟨d, ds, hupper, _, hsmall⟩
  · rw [hupper, List.singleton_append] at hchars
    have hF : c.toUpper = 'F' := (List.cons.inj hchars).1
    rw [← toLower_toUpper, hF] at hc
    exact absurd hc (by decide)
  · rw [← hsmall, hc] at hupper
    rw [← hsmall, hc] at hchars
    exact absurd (List.cons.inj hchars).1 (by decide)

namespace Keyword

theorem mem_table_of_ofText {text : String} {keyword : Keyword} (h : ofText? text = some keyword) :
    (Text.upperCased text, keyword) ∈ table := by
  obtain ⟨before, after, htable, _⟩ := List.lookup_eq_some_iff.mp h
  rw [htable]
  exact List.mem_append_right _ List.mem_cons_self

theorem ofText_of_mem {text : String} {keyword : Keyword} (h : (text, keyword) ∈ table) : ofText? text = some keyword := by
  have hall : ∀ entry ∈ table, ofText? entry.1 = some entry.2 := by decide +kernel
  exact hall (text, keyword) h

theorem same_true_of_ofText {text : String} (h : ofText? text = some .TRUE) :
    Text.sameIgnoringAsciiCase text "true" = true := by
  have hall : ∀ entry ∈ table, entry.2 = .TRUE → entry.1 = "TRUE" := by decide
  exact Text.same_true (hall _ (mem_table_of_ofText h) rfl)

theorem not_same_true_of_ofText {text : String} (h : ofText? text = some .FALSE) :
    Text.sameIgnoringAsciiCase text "true" = false := by
  have hall : ∀ entry ∈ table, entry.2 = .FALSE → entry.1 = "FALSE" := by decide
  exact Text.not_same_true (hall _ (mem_table_of_ofText h) rfl)

end Keyword

theorem Token.isWord_of_ne {text word : String} (h : Keyword.ofText? text ≠ Keyword.ofText? word) :
    (Token.word text none).isWord word = false := by
  refine Bool.eq_false_iff.mpr fun hsame => h ?_
  rw [Keyword.ofText?, Keyword.ofText?, Text.upperCased_of_same hsame]

theorem Token.isWord_of_free {text word : String} (h : Keyword.ofText? text = none)
    (hword : Keyword.ofText? word ≠ none) : (Token.word text none).isWord word = false := by
  apply Token.isWord_of_ne
  rw [h]
  exact hword.symm

theorem Token.isWord_not_of_keyword {text : String} {keyword : Keyword} (h : Keyword.ofText? text = some keyword)
    (hne : keyword ≠ .NOT) : (Token.word text none).isWord "NOT" = false := by
  have hNOT : Keyword.ofText? "NOT" = some .NOT := Keyword.ofText_of_mem (by simp [Keyword.table])
  refine Token.isWord_of_ne fun heq => hne ?_
  rw [h, hNOT] at heq
  exact Option.some.inj heq

end GeoFilter
