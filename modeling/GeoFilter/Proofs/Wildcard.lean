import GeoFilter.Evaluation
import GeoFilter.Proofs.Regex
import Mathlib.Data.List.Forall2

/-!
# What patterns match

A pattern matches a text that can be cut into pieces, one for each character of the pattern: any run of characters for
`%`, a single one for `_`, and the character itself for any other.  This is what the regular expression of a pattern
means, for which a library of regular expressions is relied on.  Neither of the wildcards stands for a line feed, so it
is the usual meaning of a pattern exactly where no line feed has to be taken by a wildcard.
-/

namespace GeoFilter

namespace Wildcard

/-- Whether a character of a pattern stands for a piece of a text.  Characters are compared with `alike`; a wildcard
stands for `free` characters only. -/
def StandsFor (alike : Char → Char → Bool) (free : Char → Bool) : Char → List Char → Prop
  | '%', piece => ∀ d ∈ piece, free d = true
  | '_', piece => ∃ d, piece = [d] ∧ free d = true
  | c, piece => ∃ d, piece = [d] ∧ alike c d = true

/-- Whether some characters can be cut into consecutive pieces that the characters of a pattern stand for in turn. -/
def Cuts (alike : Char → Char → Bool) (free : Char → Bool) (pattern text : List Char) : Prop :=
  ∃ pieces : List (List Char), pieces.flatten = text ∧ List.Forall₂ (StandsFor alike free) pattern pieces

/-- Whether a text can be cut so for a pattern in which characters stand for themselves alone. -/
def Splits (free : Char → Bool) (pattern text : String) : Prop :=
  Cuts (· == ·) free pattern.toList text.toList

variable {alike : Char → Char → Bool} {free : Char → Bool}

theorem cuts_nil {text : List Char} : Cuts alike free [] text ↔ text = [] := by
  constructor
  · rintro ⟨pieces, rfl, hpieces⟩
    cases hpieces
    rfl
  · rintro rfl
    exact ⟨[], rfl, .nil⟩

theorem cuts_cons {c : Char} {pattern text : List Char} :
    Cuts alike free (c :: pattern) text ↔
      ∃ piece rest, text = piece ++ rest ∧ StandsFor alike free c piece ∧ Cuts alike free pattern rest := by
  constructor
  · rintro ⟨pieces, rfl, hpieces⟩
    cases hpieces with
    | cons hpiece hmore => exact ⟨_, _, rfl, hpiece, _, rfl, hmore⟩
  · rintro ⟨piece, _, rfl, hpiece, pieces, rfl, hmore⟩
    exact ⟨piece :: pieces, rfl, .cons hpiece hmore⟩

theorem StandsFor.mono {free' : Char → Bool} (hfree : ∀ d, free d = true → free' d = true) {c : Char}
    {piece : List Char} (h : StandsFor alike free c piece) : StandsFor alike free' c piece := by
  unfold StandsFor at h ⊢
  split at h
  · exact fun d hd => hfree d (h d hd)
  · obtain ⟨d, rfl, hd⟩ := h
    exact ⟨d, rfl, hfree d hd⟩
  · simpa using h

theorem Cuts.mono {free' : Char → Bool} (hfree : ∀ d, free d = true → free' d = true) {pattern text : List Char}
    (h : Cuts alike free pattern text) : Cuts alike free' pattern text := by
  obtain ⟨pieces, htext, hpieces⟩ := h
  exact ⟨pieces, htext, hpieces.imp fun _ _ => StandsFor.mono hfree⟩

/-- What a wildcard may stand for makes no difference to a text in which all characters are free. -/
theorem Cuts.of_free {free' : Char → Bool} {pattern text : List Char} (htext : ∀ d ∈ text, free' d = true)
    (h : Cuts alike free pattern text) : Cuts alike free' pattern text := by
  induction pattern generalizing text with
  | nil => exact cuts_nil.mpr (cuts_nil.mp h)
  | cons c pattern ih =>
    obtain ⟨piece, rest, rfl, hpiece, hrest⟩ := cuts_cons.mp h
    obtain ⟨hfirst, hmore⟩ := List.forall_mem_append.mp htext
    refine cuts_cons.mpr ⟨piece, rest, rfl, ?_, ih hmore hrest⟩
    unfold StandsFor at hpiece ⊢
    split at hpiece
    · exact hfirst
    · obtain ⟨d, rfl, _⟩ := hpiece
      exact ⟨d, rfl, hfirst d (List.mem_singleton.mpr rfl)⟩
    · simpa using hpiece

/-! ### Translations -/

open Regex (Part MatchesAt Finds isInline)

/-- The part of a regular expression that a character of a pattern is translated into. -/
def part : Char → Part
  | '%' => .run
  | '_' => .one
  | c => .exactly c

/-- The parts of the regular expression of a pattern: it matches a whole text. -/
def parts (pattern : List Char) : List Part :=
  .start :: (pattern.map part ++ [.finish])

theorem part_of_ne {c : Char} (hrun : c ≠ '%') (hone : c ≠ '_') : part c = .exactly c := by
  rw [part]
  · exact hrun
  · exact hone

theorem translateChar_eq [RegexLibrary] (c : Char) : translateChar c = (part c).expression := by
  unfold translateChar
  split
  case h_3 hrun hone => exact congrArg Part.expression (part_of_ne hrun hone).symm
  all_goals rfl

theorem translate_eq [RegexLibrary] (pattern : String) (ignoringCase : Bool) :
    translate pattern ignoringCase = Regex.expression ignoringCase (parts pattern.toList) := by
  have hparts : (parts pattern.toList).map Part.expression = "^" :: (pattern.toList.map translateChar ++ ["$"]) := by
    rw [parts, List.map_cons, List.map_append, List.map_map, funext translateChar_eq]
    rfl
  rw [translate, Regex.expression, hparts]
  apply String.toList_injective
  cases ignoringCase <;> simp

theorem cuts_single {c : Char} (sort : Char → Bool)
    (hsort : ∀ piece, StandsFor alike free c piece ↔ ∃ d, piece = [d] ∧ sort d = true) {pattern text : List Char} :
    Cuts alike free (c :: pattern) text ↔ ∃ d rest, text = d :: rest ∧ sort d = true ∧ Cuts alike free pattern rest := by
  rw [cuts_cons]
  constructor
  · rintro ⟨piece, rest, rfl, hpiece, hrest⟩
    obtain ⟨d, rfl, hd⟩ := (hsort _).mp hpiece
    exact ⟨d, rest, rfl, hd, hrest⟩
  · rintro ⟨d, rest, rfl, hd, hrest⟩
    exact ⟨[d], rest, rfl, (hsort _).mpr ⟨d, rfl, hd⟩, hrest⟩

/-- From any place on, the parts of a pattern match if the text behind can be cut for the pattern. -/
theorem matchesAt_iff (pattern before behind : List Char) :
    MatchesAt alike (pattern.map part ++ [.finish]) before behind ↔ Cuts alike isInline pattern behind := by
  induction pattern generalizing before behind with
  | nil => exact (and_iff_left trivial).trans cuts_nil.symm
  | cons c pattern ih =>
    rw [List.map_cons, List.cons_append]
    by_cases hrun : c = '%'
    · subst hrun
      change (∃ piece rest, _ ∧ _ ∧ MatchesAt alike (pattern.map part ++ [.finish]) _ _) ↔ _
      simp only [cuts_cons, ih]
      exact .rfl
    by_cases hone : c = '_'
    · subst hone
      rw [cuts_single isInline fun _ => .rfl]
      exact exists₂_congr fun d rest => and_congr_right' (and_congr_right' (ih _ _))
    · have hexact : ∀ piece, StandsFor alike isInline c piece ↔ ∃ d, piece = [d] ∧ alike c d = true := by
        intro piece
        unfold StandsFor
        split
        · exact absurd rfl hrun
        · exact absurd rfl hone
        · exact .rfl
      rw [part_of_ne hrun hone, cuts_single (alike c) hexact]
      exact exists₂_congr fun d rest => and_congr_right' (and_congr_right' (ih _ _))

theorem finds_iff (pattern text : List Char) : Finds alike (parts pattern) text ↔ Cuts alike isInline pattern text := by
  constructor
  · rintro ⟨before, behind, rfl, rfl, hmatch⟩
    exact (matchesAt_iff pattern [] behind).mp hmatch
  · intro hcuts
    exact ⟨[], text, rfl, rfl, (matchesAt_iff pattern [] text).mpr hcuts⟩

/-- A library that does what is documented refuses a pattern, or it finds the pattern in the texts that can be cut for
it without a line feed in a wildcard. -/
theorem compile_cases [RegexLibrary] (hlibrary : RegexLibrary.Documented) (pattern : String) (ignoringCase : Bool) :
    (RegexLibrary.compile? (translate pattern ignoringCase) = none ∧
        compile pattern ignoringCase = .error (.invalidPattern pattern)) ∨
      (RegexLibrary.compile? (translate pattern ignoringCase) ≠ none ∧
        ∃ matcher, compile pattern ignoringCase = .ok matcher ∧ ∀ text, matcher text = true ↔
          Cuts (Regex.comparison ignoringCase) isInline pattern.toList text.toList) := by
  unfold compile
  cases hcompile : RegexLibrary.compile? (translate pattern ignoringCase) with
  | none => exact .inl ⟨rfl, rfl⟩
  | some matcher =>
    rw [translate_eq] at hcompile
    exact .inr ⟨nofun, matcher, rfl, fun text => (hlibrary.finds _ _ _ hcompile text).trans (finds_iff _ _)⟩

end Wildcard

namespace Predicate

open Wildcard (Splits)
open Regex (isInline)

/-- **A pattern has the usual meaning, but for line feeds.**  With any library that does what is documented, the answer
on every text is an error exactly if the library refuses the expression of the pattern.  Otherwise it is true or false,
and true exactly if the text can be cut into pieces for the characters of the pattern so that no wildcard takes a line
feed.  This is the usual answer exactly if a text that can be cut at all can be cut so; it always is without a line feed
in the text. -/
theorem evaluate_like_iff [RegexLibrary] (hlibrary : RegexLibrary.Documented) (feature : Feature) (value : Expression)
    (pattern text : String) (hvalue : value.evaluate feature = .ok (some (.string text))) :
    (RegexLibrary.compile? (Wildcard.translate pattern false) = none →
      evaluate feature (.like value pattern false) = .error (.invalidPattern pattern)) ∧
    (RegexLibrary.compile? (Wildcard.translate pattern false) ≠ none →
      (evaluate feature (.like value pattern false) = .ok true ↔ Splits isInline pattern text) ∧
      (evaluate feature (.like value pattern false) = .ok false ↔ ¬Splits isInline pattern text) ∧
      ((evaluate feature (.like value pattern false) = .ok true ↔ Splits (fun _ => true) pattern text) ↔
        (Splits (fun _ => true) pattern text → Splits isInline pattern text)) ∧
      ('\n' ∉ text.toList → (Splits isInline pattern text ↔ Splits (fun _ => true) pattern text))) := by
  have hanswer : evaluate feature (.like value pattern false) =
      (Wildcard.compile pattern false).map (fun matcher => matcher text) := by
    rw [evaluate, hvalue]
    cases Wildcard.compile pattern false <;> rfl
  rcases Wildcard.compile_cases hlibrary pattern false with
    ⟨hrefused, hcompile⟩ | ⟨haccepted, matcher, hcompile, hiff⟩
  · refine ⟨fun _ => ?_, fun haccepted => absurd hrefused haccepted⟩
    rw [hanswer, hcompile]
    rfl
  refine ⟨fun hrefused => absurd hrefused haccepted, fun _ => ?_⟩
  replace hanswer : evaluate feature (.like value pattern false) = .ok (matcher text) := by rw [hanswer, hcompile]; rfl
  have hsplits : matcher text = true ↔ Splits isInline pattern text := hiff text
  have htrue : evaluate feature (.like value pattern false) = .ok true ↔ Splits isInline pattern text := by
    rw [hanswer, ← hsplits, Except.ok.injEq]
  have hfalse : evaluate feature (.like value pattern false) = .ok false ↔ ¬Splits isInline pattern text := by
    rw [hanswer, ← hsplits, Except.ok.injEq, Bool.not_eq_true]
  have husual : Splits isInline pattern text → Splits (fun _ => true) pattern text := .mono fun _ _ => rfl
  refine ⟨htrue, hfalse, ?_, fun hfeed => ⟨husual, .of_free fun d hd => ?_⟩⟩
  · rw [htrue]
    exact ⟨fun h => h.mpr, fun h => ⟨husual, h⟩⟩
  · exact bne_iff_ne.mpr fun heq => hfeed (heq ▸ hd)

theorem evaluate_like_iff_street :
    let feature := Feature.ofProperties "roads.7" [("name", .string "Main Street")]
    let like : Predicate := .like (.property ⟨["name"]⟩) "Mai_ %t" false
    evaluate feature like = .ok true ∧
      @evaluate (.limited 3) feature like = .error (.invalidPattern "Mai_ %t") := by
  intro feature like
  have hvalue : (Expression.property ⟨["name"]⟩).evaluate feature = .ok (some (.string "Main Street")) := rfl
  constructor
  · refine ((evaluate_like_iff RegexLibrary.documented feature _ "Mai_ %t" _ hvalue).2 (by decide)).1.mpr ?_
    have hrun : ∀ d ∈ ['S', 't', 'r', 'e', 'e'], isInline d = true := List.all_eq_true.mp rfl
    exact ⟨[['M'], ['a'], ['i'], ['n'], [' '], ['S', 't', 'r', 'e', 'e'], ['t']], rfl,
      .cons ⟨'M', rfl, rfl⟩ (.cons ⟨'a', rfl, rfl⟩ (.cons ⟨'i', rfl, rfl⟩ (.cons ⟨'n', rfl, rfl⟩
        (.cons ⟨' ', rfl, rfl⟩ (.cons hrun (.cons ⟨'t', rfl, rfl⟩ .nil))))))⟩
  · exact (@evaluate_like_iff (.limited 3) (RegexLibrary.documented_limited 3) feature _ "Mai_ %t" _ hvalue).1 rfl

/-- A line feed between two characters is not taken by a wildcard between them. -/
theorem evaluate_like_lineFeed :
    evaluate (Feature.ofProperties "roads.7" [("name", .string "a\nb")])
        (.like (.property ⟨["name"]⟩) "a%b" false) = .ok false ∧
      Splits (fun _ => true) "a%b" "a\nb" := by
  refine ⟨?_, [['a'], ['\n'], ['b']], rfl,
    .cons ⟨'a', rfl, rfl⟩ (.cons (fun _ _ => rfl) (.cons ⟨'b', rfl, rfl⟩ .nil))⟩
  decide +kernel

end Predicate

end GeoFilter
