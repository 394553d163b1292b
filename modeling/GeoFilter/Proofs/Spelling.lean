import GeoFilter.Proofs.Derivation.Reading
import GeoFilter.Proofs.Scanning

/-!
# Texts of tokens

`Spells cs ts follow`: wherever the text `cs` stands and what stands behind it is as `follow` asks for, scanning
cuts exactly the tokens `ts` from it, and goes on behind it.  There is one rule for each kind of token, and texts
of several tokens are put together from texts of one.
-/

namespace GeoFilter.Scan

def Cuts (cs : List Char) (ts : List Token) : Prop :=
  ∀ place, ∃ lexemes, scanChars 0 place cs = .ok lexemes ∧ tokensOf lexemes = ts

/-- Whether a text is cut into some tokens in front of any text that is as `follow` asks for. -/
def Spells (cs : List Char) (ts : List Token) (follow : List Char → Prop) : Prop :=
  ∀ rest more, follow rest → Cuts rest more → Cuts (cs ++ rest) (ts ++ more)

def AnyText : List Char → Prop := fun _ => True

/-- Texts that start with one of some characters, if they are not empty. -/
def Ahead (chars : List Char) : List Char → Prop := fun rest => ∀ c ∈ rest.head?, c ∈ chars

def EndsWord : List Char → Prop := fun rest => ∀ c ∈ rest.head?, isWordPart c = false ∧ c ≠ '\'' ∧ c ≠ '"'

def EndsNumber : List Char → Prop := fun rest => ∀ c ∈ rest.head?, c.isDigit = false ∧ c ∉ ['.', 'e', 'E', 'x', 'L']

theorem Ahead.cons {chars : List Char} {c : Char} (h : c ∈ chars) (rest : List Char) : Ahead chars (c :: rest) := by
  intro c' hc'
  cases hc'
  exact h

theorem Cuts.scan {statement : String} {ts : List Token} (h : Cuts statement.toList ts) :
    ∃ lexemes, GeoFilter.scan statement = .ok lexemes ∧ tokensOf lexemes = ts := by
  obtain ⟨lexemes, hscan, htokens⟩ := h Place.start
  refine ⟨lexemes, ?_, htokens⟩
  rw [GeoFilter.scan, hscan]

theorem cuts_nil : Cuts [] [] := fun _ => ⟨[], rfl, rfl⟩

theorem scanChars_length (cs rest : List Char) (place : Place) :
    scanChars cs.length place (cs ++ rest) = scanChars 0 (place.after cs) rest := by
  induction cs generalizing place with
  | nil => rfl
  | cons c cs ih => exact ih (place.next c)

namespace Spells

variable {cs cs' : List Char} {ts ts' : List Token} {F G : List Char → Prop}

theorem mono (h : Spells cs ts F) (hFG : ∀ rest, G rest → F rest) : Spells cs ts G :=
  fun rest more hrest => h rest more (hFG rest hrest)

theorem append (h : Spells cs ts F) (h' : Spells cs' ts' G) (hF : ∀ rest, G rest → F (cs' ++ rest)) :
    Spells (cs ++ cs') (ts ++ ts') G := by
  intro rest more hrest hmore
  rw [List.append_assoc, List.append_assoc]
  exact h _ _ (hF rest hrest) (h' rest more hrest hmore)

theorem nil : Spells [] [] F := fun _ _ _ hmore => hmore

theorem cuts (h : Spells cs ts F) (hF : F []) : Cuts cs ts := by
  have hcuts := h [] [] hF cuts_nil
  rwa [List.append_nil, List.append_nil] at hcuts

theorem intercalate {separator : List Char} {between : List Token} {chars : α → List Char} {tokens : α → List Token}
    {x : α} {xs : List α} (h : ∀ a ∈ x :: xs, Spells (chars a) (tokens a) F)
    (hbetween : Spells separator between AnyText) (hF : ∀ rest, F (separator ++ rest)) :
    Spells (separator.intercalate ((x :: xs).map chars)) (tokens x ++ xs.flatMap fun a => between ++ tokens a) F := by
  induction xs generalizing x with
  | nil =>
    have hx := h x List.mem_cons_self
    simpa using hx
  | cons y ys ih =>
    have hmore := ih fun a ha => h a (List.mem_cons_of_mem _ ha)
    have hpair := (h x List.mem_cons_self).append (hbetween.append hmore fun _ _ => trivial) fun rest _ => by
      rw [List.append_assoc]
      exact hF _
    simpa using hpair

/-! ### Single pieces -/

theorem piece {c : Char} {token : Token}
    (h : ∀ rest, F rest → pieceAt c (cs ++ rest) = .ok (some token, cs.length)) : Spells (c :: cs) [token] F := by
  intro rest more hrest hmore place
  obtain ⟨lexemes, hscan, htokens⟩ := hmore ((place.next c).after cs)
  refine ⟨⟨token, place⟩ :: lexemes, ?_, congrArg (token :: ·) htokens⟩
  have hmore : scanChars cs.length (place.next c) (cs ++ rest) = .ok lexemes :=
    (scanChars_length cs rest _).trans hscan
  rw [List.cons_append, scanChars, h rest hrest]
  dsimp only
  rw [hmore]

theorem blank (h : Spells cs ts F) : Spells (' ' :: cs) ts F := by
  intro rest more hrest hmore place
  obtain ⟨lexemes, hscan, htokens⟩ := h rest more hrest hmore (place.next ' ')
  refine ⟨lexemes, ?_, htokens⟩
  have hpiece : pieceAt ' ' (cs ++ rest) = .ok (none, 0) := rfl
  rw [List.cons_append, scanChars, hpiece]
  dsimp only
  rw [hscan]

/-! ### Signs -/

theorem sign {s : Sign} (hs : s ∈ [Sign.leftParen, .rightParen, .comma, .semicolon]) :
    Spells s.spelling.toList [.sign s] AnyText := by
  simp only [List.mem_cons, List.not_mem_nil, or_false] at hs
  rcases hs with rfl | rfl | rfl | rfl <;> exact piece fun _ _ => rfl

theorem sign_blank (s : Sign) : Spells s.spelling.toList [.sign s] (Ahead [' ']) := by
  have hpieces : ∀ {c : Char} {cs : List Char}, s.spelling.toList = c :: cs →
      (∀ r, pieceAt c (cs ++ ' ' :: r) = .ok (some (.sign s), cs.length)) →
      pieceAt c (cs ++ []) = .ok (some (.sign s), cs.length) →
      Spells s.spelling.toList [.sign s] (Ahead [' ']) := by
    intro c cs hspelling hblank hend
    rw [hspelling]
    refine piece fun rest hrest => ?_
    rcases rest with _ | ⟨d, rest⟩
    · exact hend
    · obtain rfl := List.mem_singleton.mp (hrest d rfl)
      exact hblank rest
  cases s <;> exact hpieces rfl (fun _ => rfl) rfl

theorem minus : Spells ['-'] [.sign .minus] fun rest => ∃ d ds, rest = d :: ds ∧ d.isDigit = true := by
  refine piece ?_
  rintro _ ⟨d, ds, rfl, hd⟩
  have hdigits := mem_digitChars hd
  simp only [digitChars, List.mem_cons, List.not_mem_nil, or_false] at hdigits
  rcases hdigits with rfl | rfl | rfl | rfl | rfl | rfl | rfl | rfl | rfl | rfl <;> rfl

/-! ### Words -/

theorem wordOrMarkedText_of_unmarked {c : Char} {rest : List Char} (h : ∀ d ∈ rest.head?, d ≠ '\'' ∧ d ≠ '"') :
    wordOrMarkedText c rest = wordFrom [c] rest := by
  unfold wordOrMarkedText
  split <;> first
    | rfl
    | exact absurd rfl (h _ rfl).1
    | exact absurd rfl (h _ rfl).2

end Spells

/-- A letter or an underscore and perhaps more characters of a word. -/
def IsPlainWord (cs : List Char) : Prop :=
  ∃ c ds, cs = c :: ds ∧ isWordStart c = true ∧ ∀ d ∈ ds, isWordPart d = true

theorem isPlainWord_of_all {cs ds : List Char} {c : Char} (h : cs = c :: ds) (hstart : isWordStart c = true)
    (hpart : ds.all isWordPart = true) : IsPlainWord cs := ⟨c, ds, h, hstart, List.all_eq_true.mp hpart⟩

theorem pieceAt_word {c : Char} {ds rest : List Char} (hc : isWordStart c = true) (hds : ∀ d ∈ ds, isWordPart d = true)
    (hrest : EndsWord rest) :
    pieceAt c (ds ++ rest) = .ok (some (.word (String.ofList (c :: ds)) none), ds.length) := by
  have hunmarked : ∀ d ∈ (ds ++ rest).head?, d ≠ '\'' ∧ d ≠ '"' := by
    rcases ds with _ | ⟨d, ds⟩
    · exact fun d hd => (hrest d hd).2
    · intro d' hd'
      cases hd'
      have hpart := hds d List.mem_cons_self
      constructor
      · rintro rfl
        exact absurd hpart (by decide)
      · rintro rfl
        exact absurd hpart (by decide)
  have hspan := (span_append hds fun d hd => (hrest d hd).1).1
  have hpiece : pieceAt c (ds ++ rest) = wordOrMarkedText c (ds ++ rest) := if_pos hc
  rw [hpiece, Spells.wordOrMarkedText_of_unmarked hunmarked, wordFrom, hspan, List.singleton_append,
    List.length_singleton, Nat.sub_self, Nat.zero_add]
  rfl

theorem Spells.word {text : String} (h : IsPlainWord text.toList) : Spells text.toList [.word text none] EndsWord := by
  obtain ⟨c, ds, htext, hc, hds⟩ := h
  have hword : text = String.ofList (c :: ds) := by rw [← htext, String.ofList_toList]
  rw [htext, hword]
  exact .piece fun rest hrest => pieceAt_word hc hds hrest

/-! ### Numbers -/

theorem isWordStart_of_isDigit {c : Char} (h : c.isDigit = true) : isWordStart c = false := by
  have hdigits : digitChars.all (fun d => !isWordStart d) = true := by decide
  exact Bool.not_eq_eq_eq_not.mp (List.all_eq_true.mp hdigits c (mem_digitChars h))

theorem fractionChars_append {fraction tail : List Char} (h : IsFraction fraction)
    (htail : ∀ c ∈ tail.head?, c.isDigit = false ∧ c ≠ '.') : fractionChars (fraction ++ tail) = fraction := by
  rcases h with rfl | ⟨ds, rfl, hds⟩
  · unfold fractionChars
    split
    case h_1 heq =>
      rw [List.nil_append] at heq
      rw [heq] at htail
      exact absurd rfl (htail _ rfl).2
    case h_2 => rfl
  · have hspan := (span_append hds fun d hd => (htail d hd).1).1
    rw [List.cons_append, fractionChars, hspan]

theorem exponentChars_append {exponent tail : List Char} (h : IsExponent exponent)
    (htail : ∀ c ∈ tail.head?, c.isDigit = false ∧ c ≠ 'e' ∧ c ≠ 'E') :
    exponentChars (exponent ++ tail) = exponent := by
  rcases h with rfl | ⟨mark, signs, ds, rfl, hmark, hsigns, hne, hds⟩
  · unfold exponentChars
    split
    case h_1 mark cs heq =>
      rw [List.nil_append] at heq
      rw [heq] at htail
      have hmark := (htail _ rfl).2
      exact if_neg (by simp [hmark])
    case h_2 => rfl
  · have hspan := (span_append hds fun d hd => (htail d hd).1).1
    obtain ⟨d, ds, rfl⟩ := List.exists_cons_of_ne_nil hne
    have hd := hds d List.mem_cons_self
    have hplus : d ≠ '+' := by
      rintro rfl
      exact absurd hd (by decide)
    have hminus : d ≠ '-' := by
      rintro rfl
      exact absurd hd (by decide)
    rcases hsigns with rfl | rfl | rfl
    · simp only [List.cons_append, List.nil_append] at hspan ⊢
      simp [exponentChars, hmark, hspan, hplus, hminus]
    · simp only [List.cons_append, List.nil_append] at hspan ⊢
      simp [exponentChars, hmark, hspan]
    · simp only [List.cons_append, List.nil_append] at hspan ⊢
      simp [exponentChars, hmark, hspan]

/-- A number is cut where its digits, its fraction, its exponent and its mark end. -/
theorem numberOrPeriod_append {whole fraction exponent rest : List Char} (long : Bool) (hne : whole ≠ [])
    (hwhole : ∀ d ∈ whole, d.isDigit = true) (hfraction : IsFraction fraction) (hexponent : IsExponent exponent)
    (hrest : EndsNumber rest) :
    numberOrPeriod (whole ++ fraction ++ exponent ++ ((if long then ['L'] else []) ++ rest)) =
      Scan.piece (.number (String.ofList (whole ++ fraction ++ exponent)) long)
        ((whole ++ fraction ++ exponent).length - 1 + if long then 1 else 0) := by
  set tail := (if long then ['L'] else []) ++ rest with htail
  have htailHead : ∀ c ∈ tail.head?, c.isDigit = false ∧ c ∉ ['.', 'e', 'E', 'x'] := by
    cases long with
    | false =>
      intro c hc
      have hends := hrest c hc
      simp only [List.mem_cons, List.not_mem_nil, or_false, not_or] at hends ⊢
      exact ⟨hends.1, hends.2.1, hends.2.2.1, hends.2.2.2.1, hends.2.2.2.2.1⟩
    | true =>
      intro c hc
      cases hc
      decide
  have hlong : (tail.head? == some 'L') = long := by
    cases long with
    | false =>
      refine beq_eq_false_iff_ne.mpr fun hL => ?_
      exact absurd (hrest 'L' hL).2 (by decide)
    | true => rfl
  have hexponentHead : ∀ c ∈ (exponent ++ tail).head?, c.isDigit = false ∧ c ≠ '.' ∧ c ≠ 'x' := by
    rcases hexponent with rfl | ⟨mark, signs, ds, rfl, rfl | rfl, _⟩
    · intro c hc
      have hends := htailHead c hc
      simp only [List.mem_cons, List.not_mem_nil, or_false, not_or] at hends
      exact ⟨hends.1, hends.2.1, hends.2.2.2.2⟩
    · simp
    · simp
  have hfractionHead : ∀ c ∈ (fraction ++ (exponent ++ tail)).head?, c.isDigit = false ∧ c ≠ 'x' := by
    rcases hfraction with rfl | ⟨ds, rfl, _⟩
    · exact fun c hc => ⟨(hexponentHead c hc).1, (hexponentHead c hc).2.2⟩
    · simp
  have hspan := span_append hwhole fun c hc => (hfractionHead c hc).1
  have hfractionChars := fractionChars_append hfraction fun c hc =>
    ⟨(hexponentHead c hc).1, (hexponentHead c hc).2.1⟩
  have hexponentChars := exponentChars_append hexponent  fun c hc => by
    have hends := htailHead c hc
    simp only [List.mem_cons, List.not_mem_nil, or_false, not_or] at hends
    exact ⟨hends.1, hends.2.2.1, hends.2.2.2.1⟩
  rw [List.append_assoc, List.append_assoc]
  unfold numberOrPeriod
  rw [hspan.1, hspan.2]
  dsimp only
  split
  case h_1 heq =>
    have hx := hfractionHead 'x' (by rw [heq]; rfl)
    exact absurd rfl hx.2
  case h_2 =>
    rw [if_neg fun h => hne h.1, hfractionChars, List.drop_left, hexponentChars, List.drop_left, hlong]

theorem pieceAt_number {d : Char} {ds fraction exponent rest : List Char} (long : Bool)
    (hwhole : ∀ d' ∈ d :: ds, d'.isDigit = true) (hfraction : IsFraction fraction) (hexponent : IsExponent exponent)
    (hrest : EndsNumber rest) :
    pieceAt d (ds ++ fraction ++ exponent ++ (if long then ['L'] else []) ++ rest) =
      .ok (some (.number (String.ofList (d :: ds ++ fraction ++ exponent)) long),
        (ds ++ fraction ++ exponent ++ if long then ['L'] else []).length) := by
  have hd := hwhole d List.mem_cons_self
  have hpiece : ∀ cs, pieceAt d cs = numberOrPeriod (d :: cs) := by
    intro cs
    unfold pieceAt
    rw [isWordStart_of_isDigit hd, if_neg Bool.false_ne_true, if_pos (.inl hd)]
  have hnumber := numberOrPeriod_append long (List.cons_ne_nil d ds) hwhole hfraction hexponent hrest
  rw [hpiece]
  simp only [List.cons_append, List.append_assoc] at hnumber ⊢
  rw [hnumber]
  have hlength : (d :: (ds ++ (fraction ++ exponent))).length - 1 + (if long then 1 else 0) =
      (ds ++ (fraction ++ (exponent ++ if long then ['L'] else []))).length := by
    cases long with
    | false => simp
    | true =>
      simp
      omega
  rw [hlength]
  rfl

theorem Spells.number {whole fraction exponent : List Char} (long : Bool) (hne : whole ≠ [])
    (hwhole : ∀ d ∈ whole, d.isDigit = true) (hfraction : IsFraction fraction) (hexponent : IsExponent exponent) :
    Spells (whole ++ fraction ++ exponent ++ if long then ['L'] else [])
      [.number (String.ofList (whole ++ fraction ++ exponent)) long] EndsNumber := by
  obtain ⟨d, ds, rfl⟩ := List.exists_cons_of_ne_nil hne
  exact .piece fun rest hrest => pieceAt_number long hwhole hfraction hexponent hrest

theorem cuts_spellings {ts : List Token} (h : ∀ t ∈ ts, Spells t.spelling.toList [t] (Ahead [' '])) :
    Cuts (" ".intercalate (ts.map Token.spelling)).toList ts := by
  cases ts with
  | nil => exact cuts_nil
  | cons t ts =>
    have hblank : Spells [' '] [] AnyText := .blank .nil
    have hspells := Spells.intercalate (F := Ahead [' ']) h hblank fun rest => Ahead.cons List.mem_cons_self _
    have htokens : [t] ++ (ts.flatMap fun t => [] ++ [t]) = t :: ts := by
      rw [List.singleton_append]
      exact congrArg (t :: ·) (List.flatMap_singleton' ts)
    have htext : (" ".intercalate ((t :: ts).map Token.spelling)).toList =
        [' '].intercalate ((t :: ts).map fun t => t.spelling.toList) := by
      rw [String.toList_intercalate, List.map_map]
      rfl
    rw [htokens] at hspells
    rw [htext]
    exact hspells.cuts nofun

end GeoFilter.Scan
