import GeoFilter.Evaluation.Regex

/-!
# What regular expressions match

The meaning of the expressions that patterns are translated into, what a library of regular expressions documents of
them, and that the engine of the program does what is documented.  The table that it keeps tells of every place of a
text whether the parts match there.
-/

namespace GeoFilter

namespace Regex

/-- Whether the parts match in turn at a place of a text, given by what stands before it and behind it.  Characters are
compared with `alike`. -/
def MatchesAt (alike : Char → Char → Bool) : List Part → List Char → List Char → Prop
  | [], _, _ => True
  | .start :: parts, before, behind => before = [] ∧ MatchesAt alike parts before behind
  | .finish :: parts, before, behind => behind = [] ∧ MatchesAt alike parts before behind
  | .one :: parts, before, behind =>
    ∃ c rest, behind = c :: rest ∧ isInline c = true ∧ MatchesAt alike parts (before ++ [c]) rest
  | .run :: parts, before, behind =>
    ∃ piece rest, behind = piece ++ rest ∧ (∀ c ∈ piece, isInline c = true) ∧
      MatchesAt alike parts (before ++ piece) rest
  | .exactly d :: parts, before, behind =>
    ∃ c rest, behind = c :: rest ∧ alike d c = true ∧ MatchesAt alike parts (before ++ [c]) rest

/-- Whether there is a match at some place of a text. -/
def Finds (alike : Char → Char → Bool) (parts : List Part) (text : List Char) : Prop :=
  ∃ before behind, text = before ++ behind ∧ MatchesAt alike parts before behind

/-- The expression of a part: an escaped character stands for itself. -/
def Part.expression [RegexLibrary] : Part → String
  | .start => "^"
  | .finish => "$"
  | .one => "."
  | .run => ".*"
  | .exactly c => RegexLibrary.escape (String.singleton c)

/-- The expression of a row of parts, with the flag in front if case is ignored. -/
def expression [RegexLibrary] (ignoringCase : Bool) (parts : List Part) : String :=
  (if ignoringCase then "(?i)" else "") ++ String.join (parts.map Part.expression)

def comparison (ignoringCase : Bool) : Char → Char → Bool :=
  if ignoringCase then Text.sameFold else (· == ·)

end Regex

/-- What a library of regular expressions documents of the rows of anchors, dots and escaped characters: it refuses
them, or it finds what they mean. -/
structure RegexLibrary.Documented [RegexLibrary] : Prop where
  finds : ∀ (ignoringCase : Bool) (parts : List Regex.Part) (matcher : String → Bool),
    RegexLibrary.compile? (Regex.expression ignoringCase parts) = some matcher →
    ∀ text, matcher text = true ↔ Regex.Finds (Regex.comparison ignoringCase) parts text.toList

namespace Regex

/-! ### Tables -/

/-- Whether a table tells of every place of a text from one on if it has a property. -/
inductive Tabulates (holds : List Char → List Char → Prop) : List Char → List Char → List Bool → Prop where
  | nil {before : List Char} {b : Bool} (h : b = true ↔ holds before []) : Tabulates holds before [] [b]
  | cons {before : List Char} {c : Char} {cs : List Char} {b : Bool} {bs : List Bool}
    (h : b = true ↔ holds before (c :: cs)) (more : Tabulates holds (before ++ [c]) cs bs) :
    Tabulates holds before (c :: cs) (b :: bs)

namespace Tabulates

variable {holds holds' : List Char → List Char → Prop} {before behind : List Char} {table : List Bool}

theorem head_iff (h : Tabulates holds before behind table) : table.headD false = true ↔ holds before behind := by
  cases h with
  | nil h => exact h
  | cons h _ => exact h

theorem congr (heq : ∀ s t, holds s t ↔ holds' s t) (h : Tabulates holds before behind table) :
    Tabulates holds' before behind table := by
  induction h with
  | nil h => exact .nil (h.trans (heq _ _))
  | cons h _ ih => exact .cons (h.trans (heq _ _)) ih

theorem true_everywhere (before behind : List Char) :
    Tabulates (fun _ _ => True) before behind (true :: behind.map (fun _ => true)) := by
  induction behind generalizing before with
  | nil => exact .nil (iff_of_true rfl trivial)
  | cons c cs ih => exact .cons (iff_of_true rfl trivial) (ih _)

theorem any_iff (h : Tabulates holds before behind table) :
    table.any id = true ↔ ∃ piece rest, behind = piece ++ rest ∧ holds (before ++ piece) rest := by
  induction h with
  | @nil before b h =>
    rw [List.any_cons, List.any_nil, Bool.or_false, id, h]
    constructor
    · intro hend
      exact ⟨[], [], rfl, by rwa [List.append_nil]⟩
    · rintro ⟨piece, rest, heq, hrest⟩
      obtain ⟨rfl, rfl⟩ := List.append_eq_nil_iff.mp heq.symm
      rwa [List.append_nil] at hrest
  | @cons before c cs b bs h more ih =>
    rw [List.any_cons, Bool.or_eq_true, id, h, ih]
    constructor
    · rintro (hhere | ⟨piece, rest, rfl, hrest⟩)
      · exact ⟨[], c :: cs, rfl, by rwa [List.append_nil]⟩
      · exact ⟨c :: piece, rest, rfl, by rwa [List.append_assoc] at hrest⟩
    · rintro ⟨_ | ⟨d, piece⟩, rest, heq, hrest⟩
      · obtain rfl : c :: cs = rest := heq
        rw [List.append_nil] at hrest
        exact .inl hrest
      · obtain ⟨rfl, rfl⟩ := List.cons.inj heq
        exact .inr ⟨piece, rest, rfl, by rwa [List.append_assoc]⟩

theorem all_false (hnot : ∀ piece rest, behind = piece ++ rest → ¬holds (before ++ piece) rest)
    (h : Tabulates holds' before behind table) : Tabulates holds before behind (table.map fun _ => false) := by
  induction h with
  | @nil before b _ =>
    refine .nil (iff_of_false Bool.false_ne_true ?_)
    simpa using hnot [] [] rfl
  | @cons before c cs b bs _ _ ih =>
    refine .cons (iff_of_false Bool.false_ne_true ?_) (ih fun piece rest heq => ?_)
    · simpa using hnot [] (c :: cs) rfl
    · simpa using hnot (c :: piece) rest (by rw [heq, List.cons_append])

theorem afterStart (h : Tabulates holds [] behind table) :
    Tabulates (fun s t => s = [] ∧ holds s t) [] behind (afterStart table) := by
  cases h with
  | nil h => exact .nil (h.trans (and_iff_right rfl).symm)
  | cons h more =>
    refine .cons (h.trans (and_iff_right rfl).symm) (more.all_false fun piece rest _ hat => ?_)
    exact absurd hat.1 (by simp)

theorem afterFinish (h : Tabulates holds before behind table) :
    Tabulates (fun s t => t = [] ∧ holds s t) before behind (afterFinish table) := by
  induction h with
  | nil h => exact .nil (h.trans (and_iff_right rfl).symm)
  | @cons before c cs b bs h more ih =>
    have hinner : Tabulates (fun s t => t = [] ∧ holds s t) before (c :: cs) (false :: Regex.afterFinish bs) :=
      .cons (iff_of_false Bool.false_ne_true fun hat => List.cons_ne_nil _ _ hat.1) ih
    cases bs with
    | nil => nomatch more
    | cons b' bs => exact hinner

theorem afterOne {sort : Char → Bool} (h : Tabulates holds before behind table) :
    Tabulates (fun s t => ∃ c rest, t = c :: rest ∧ sort c = true ∧ holds (s ++ [c]) rest) before behind
      (afterOne sort behind table) := by
  induction h with
  | nil => exact .nil (iff_of_false Bool.false_ne_true nofun)
  | @cons before c cs b bs _ more ih =>
    have hhead := more.head_iff
    cases bs with
    | nil => nomatch more
    | cons b' bs =>
      refine .cons ?_ ih
      rw [Bool.and_eq_true]
      constructor
      · rintro ⟨hsort, hb⟩
        exact ⟨c, cs, rfl, hsort, hhead.mp hb⟩
      · rintro ⟨_, _, ⟨⟩, hsort, hrest⟩
        exact ⟨hsort, hhead.mpr hrest⟩

theorem afterRun (h : Tabulates holds before behind table) :
    Tabulates (fun s t => ∃ piece rest, t = piece ++ rest ∧ (∀ c ∈ piece, isInline c = true) ∧
      holds (s ++ piece) rest) before behind (afterRun behind table) := by
  induction h with
  | @nil before b h =>
    refine .nil (h.trans ⟨fun hend => ⟨[], [], rfl, List.forall_mem_nil _, by rwa [List.append_nil]⟩, ?_⟩)
    rintro ⟨piece, rest, heq, _, hrest⟩
    obtain ⟨rfl, rfl⟩ := List.append_eq_nil_iff.mp heq.symm
    rwa [List.append_nil] at hrest
  | @cons before c cs b bs h more ih =>
    refine .cons ?_ ih
    rw [Bool.or_eq_true, Bool.and_eq_true, h, ih.head_iff]
    constructor
    · rintro (hhere | ⟨hinline, piece, rest, rfl, hpiece, hrest⟩)
      · exact ⟨[], c :: cs, rfl, List.forall_mem_nil _, by rwa [List.append_nil]⟩
      · rw [List.append_assoc] at hrest
        exact ⟨c :: piece, rest, rfl, List.forall_mem_cons.mpr ⟨hinline, hpiece⟩, hrest⟩
    · rintro ⟨_ | ⟨d, piece⟩, rest, heq, hpiece, hrest⟩
      · obtain rfl : c :: cs = rest := heq
        rw [List.append_nil] at hrest
        exact .inl hrest
      · obtain ⟨rfl, rfl⟩ := List.cons.inj heq
        obtain ⟨hinline, hpiece⟩ := List.forall_mem_cons.mp hpiece
        exact .inr ⟨hinline, piece, rest, rfl, hpiece, by rwa [List.append_assoc]⟩

end Tabulates

variable {alike : Char → Char → Bool}

theorem tabulates_matchTable (text : List Char) (parts : List Part) :
    Tabulates (MatchesAt alike parts) [] text (matchTable alike text parts) := by
  induction parts with
  | nil => exact .true_everywhere [] text
  | cons part parts ih =>
    cases part with
    | start => exact ih.afterStart
    | finish => exact ih.afterFinish
    | one => exact ih.afterOne
    | run => exact ih.afterRun
    | exactly c => exact ih.afterOne

theorem finds_iff (parts : List Part) (text : String) :
    finds alike parts text = true ↔ Finds alike parts text.toList :=
  (tabulates_matchTable text.toList parts).any_iff

/-! ### Reading an expression -/

theorem toList_escape (c : Char) : (RegexLibrary.escape (String.singleton c)).toList = escapeChar c := by
  change (String.ofList ((String.singleton c).toList.flatMap escapeChar)).toList = _
  simp

theorem parts?_escapeChar (c : Char) (cs : List Char) :
    parts? (escapeChar c ++ cs) = (parts? cs).map (.exactly c :: ·) := by
  unfold escapeChar
  split
  case isTrue hmeta =>
    change (if metaChars.contains c then (parts? cs).map (.exactly c :: ·) else none) = _
    rw [if_pos hmeta]
  case isFalse hplain =>
    -- a character without a meaning is none of those that begin another part
    have hne : ∀ d ∈ metaChars, c ≠ d := fun d hd heq => hplain (List.contains_iff_mem.mpr (heq ▸ hd))
    rw [List.singleton_append, parts?, if_neg hplain]
    · exact hne '^' (by decide)
    · exact hne '$' (by decide)
    · exact fun _ heq _ => hne '.' (by decide) heq
    · exact hne '.' (by decide)
    · exact fun _ _ heq _ => hne '\\' (by decide) heq

/-- The expression of a part does not begin with what would change the part in front, or be a flag. -/
theorem head_expression (part : Part) : ∃ c cs, part.expression.toList = c :: cs ∧ c ≠ '*' ∧ c ≠ '(' := by
  cases part with
  | start => exact ⟨'^', [], rfl, by decide, by decide⟩
  | finish => exact ⟨'$', [], rfl, by decide, by decide⟩
  | one => exact ⟨'.', [], rfl, by decide, by decide⟩
  | run => exact ⟨'.', ['*'], rfl, by decide, by decide⟩
  | exactly c =>
    rw [Part.expression, toList_escape, escapeChar]
    split
    case isTrue => exact ⟨'\\', [c], rfl, by decide, by decide⟩
    case isFalse hplain =>
      refine ⟨c, [], rfl, ?_, ?_⟩
      · rintro rfl
        exact hplain (by decide)
      · rintro rfl
        exact hplain (by decide)

theorem head_expressions (parts : List Part) {c : Char} {cs : List Char}
    (h : parts.flatMap (fun part => part.expression.toList) = c :: cs) : c ≠ '*' ∧ c ≠ '(' := by
  cases parts with
  | nil => exact absurd h (by simp)
  | cons part parts =>
    obtain ⟨d, ds, hchars, hd⟩ := head_expression part
    rw [List.flatMap_cons, hchars] at h
    exact (List.cons.inj h).1 ▸ hd

theorem parts?_dot {cs : List Char} (h : ∀ rest, cs ≠ '*' :: rest) :
    parts? ('.' :: cs) = (parts? cs).map (.one :: ·) := by
  rw [parts?]
  exact h

theorem parts?_expressions (parts : List Part) :
    parts? (parts.flatMap fun part => part.expression.toList) = some parts := by
  induction parts with
  | nil => rfl
  | cons part parts ih =>
    rw [List.flatMap_cons]
    cases part with
    | start => exact congrArg (Option.map (Part.start :: ·)) ih
    | finish => exact congrArg (Option.map (Part.finish :: ·)) ih
    | run => exact congrArg (Option.map (Part.run :: ·)) ih
    | one =>
      have hstar : ∀ rest, parts.flatMap (fun part => part.expression.toList) ≠ '*' :: rest := by
        intro rest heq
        exact (head_expressions parts heq).1 rfl
      exact (parts?_dot hstar).trans (congrArg (Option.map (Part.one :: ·)) ih)
    | exactly c =>
      rw [Part.expression, toList_escape, parts?_escapeChar, ih]
      rfl

theorem compile?_flagged {text : String} {cs : List Char} (h : text.toList = ['(', '?', 'i', ')'] ++ cs) :
    compile? text = (parts? cs).map (finds Text.sameFold) := by
  rw [compile?, h]
  rfl

theorem compile?_unflagged {text : String} {cs : List Char} (h : text.toList = cs) (hhead : ∀ rest, cs ≠ '(' :: rest) :
    compile? text = (parts? cs).map (finds (· == ·)) := by
  unfold compile?
  split
  case h_1 heq => exact absurd (h.symm.trans heq) (hhead _)
  case h_2 => rw [h]

theorem compile?_expression (ignoringCase : Bool) (parts : List Part) :
    RegexLibrary.compile? (expression ignoringCase parts) = some (finds (comparison ignoringCase) parts) := by
  have hread := parts?_expressions parts
  have hchars : (expression ignoringCase parts).toList =
      (if ignoringCase then ['(', '?', 'i', ')'] else []) ++ parts.flatMap fun part => part.expression.toList := by
    rw [expression, String.toList_append, String.toList_join, List.flatMap_map]
    cases ignoringCase <;> rfl
  change compile? _ = _
  cases ignoringCase with
  | true =>
    rw [compile?_flagged hchars, hread]
    rfl
  | false =>
    rw [compile?_unflagged hchars fun rest heq => (head_expressions parts heq).2 rfl]
    exact congrArg (Option.map _) hread

end Regex

/-- The program's library does what is documented, and refuses no row of parts. -/
theorem RegexLibrary.documented : RegexLibrary.Documented where
  finds ignoringCase parts matcher h text := by
    rw [Regex.compile?_expression] at h
    obtain rfl := Option.some.inj h
    exact Regex.finds_iff parts text

/-- The program's library with a limit of size, beyond which it refuses an expression. -/
@[reducible]
def RegexLibrary.limited (limit : Nat) : RegexLibrary where
  escape := RegexLibrary.escape
  compile? expression := if expression.length ≤ limit then RegexLibrary.compile? expression else none

theorem RegexLibrary.documented_limited (limit : Nat) : @RegexLibrary.Documented (.limited limit) := by
  refine @RegexLibrary.Documented.mk (.limited limit) fun ignoringCase parts matcher h text => ?_
  change (if _ then RegexLibrary.compile? (Regex.expression ignoringCase parts) else none) = some matcher at h
  split at h
  · exact RegexLibrary.documented.finds ignoringCase parts matcher h text
  · nomatch h

end GeoFilter
