import GeoFilter.Proofs.Derivation.Reading
import GeoFilter.Proofs.Framing.Filter
import GeoFilter.Proofs.Parallel.Spanning

/-!
# Patterns side by side

A pattern between quotes is a token like any other.  A pattern without quotes is spelled by all tokens up to a comma
or a parenthesis, and it is the only thing whose reading asks where tokens stand: each right behind the one before.
-/

namespace GeoFilter

open Translation (read read_phrase_bind)

/-- Whether a token may be a piece of a pattern without quotes. -/
def Token.isPatternPiece (token : Token) : Bool := decide ¬(token = .sign .comma ∨ token = .sign .rightParen)

/-- The text that some tokens spell right behind each other. -/
def spelled (tokens : List Token) : String := tokens.foldr (fun token text => token.spelling ++ text) ""

/-- The fault of a pattern whose pieces do not stand right behind each other. -/
def SyntaxFault.inPattern (token : SourceToken) : SyntaxFault :=
  .unexpected "a DE-9IM pattern without spaces" token

/-- A pattern without quotes has spaces in it, or it is all that is spelled up to a comma or a parenthesis. -/
theorem barePattern_cases (behind? : Option Place) (ls : List Lexeme) :
    (∃ token, Grammar.barePattern behind? ls = .error (.inPattern token)) ∨
      Grammar.barePattern behind? ls = .ok (spelled ((tokensOf ls).takeWhile Token.isPatternPiece),
        ls.dropWhile fun l => l.token.isPatternPiece) := by
  induction ls generalizing behind? with
  | nil => exact .inr rfl
  | cons l ls ih =>
    rw [Grammar.barePattern]
    by_cases hstop : l.token = .sign .comma ∨ l.token = .sign .rightParen
    · have hpiece : l.token.isPatternPiece = false := decide_eq_false (not_not_intro hstop)
      rw [if_pos hstop]
      right
      simp [tokensOf, hpiece, spelled]
    · have hpiece : l.token.isPatternPiece = true := decide_eq_true hstop
      rw [if_neg hstop]
      by_cases happart : behind?.any (· ≠ l.place) = true
      · rw [if_pos happart]
        exact .inl ⟨l.source, rfl⟩
      · rw [if_neg happart]
        rcases ih (some ⟨l.place.line, l.place.column + l.token.text.length⟩) with ⟨token, hmore⟩ | hmore
        · rw [hmore]
          exact .inl ⟨token, rfl⟩
        · rw [hmore]
          right
          simp [tokensOf, hpiece, spelled]

theorem Token.Alike.Respected.isQuotedPattern : Token.Alike.Respected Grammar.isQuotedPattern := by
  rintro _ _ (_ | _) <;> rfl

theorem spanning_de9imPattern {w : Pairing} {R : LexemePairs → SourceToken → SourceToken → LexemePairs → Prop}
    (hquoted : ∀ s token token' t, w.Takes Grammar.isQuotedPattern token token' → R s token token' t)
    (hbare : ∀ start start', w.source start start' →
      Spanning w R (read (barePatternAt start)) (read (barePatternAt start'))) :
    Spanning w R (read Grammar.de9imPattern) (read Grammar.de9imPattern) := by
  rw [de9imPattern_eq, read_phrase_bind]
  refine (Spanning.acceptIf .isQuotedPattern).bind fun s pattern? pattern?' mid haccepted => ?_
  cases haccepted with
  | some hstands hl htakes => exact .pure fun _ _ => hquoted _ _ _ _ htakes
  | none =>
    dsimp only
    rw [read_phrase_bind]
    refine (Spanning.here _).bind fun s' start start' mid' hstart => ?_
    obtain ⟨rfl, hsource⟩ := hstart
    refine (hbare start start' hsource).mono ?_
    rintro _ token token' t hpattern rfl rfl
    exact hpattern

end GeoFilter
