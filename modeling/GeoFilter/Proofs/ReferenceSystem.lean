import GeoFilter.Proofs.LetterCase
import GeoFilter.Proofs.Scanning

/-!
# Numbers of reference systems

The number of a reference system is written in digits, alone or behind the name of its catalogue.  It comes to the same
system either way, or fails in the same way: because no number of 32 bits has its value, or because the resolver does not
know it.
-/

namespace GeoFilter

open Decimal (digitsValue int32? readInt32?)

/-- Whether a text is a number without sign, fraction and exponent. -/
structure IsDigits (text : String) : Prop where
  nonempty : text.toList ≠ []
  digits : ∀ d ∈ text.toList, d.isDigit = true

/-- A token that names a reference system by its number: the number, or the number behind EPSG in any case. -/
inductive NamesSystem (number : String) : Token → Prop
  | number (long : Bool) : NamesSystem number (.number number long)
  | code {authority : String} (h : Text.sameIgnoringAsciiCase authority "EPSG" = true) :
    NamesSystem number (.quoted (authority ++ ":" ++ number))

/-- What a number comes to as the number of a reference system. -/
inductive Reference where
  /-- A system that the resolver knows. -/
  | known (crs : Crs)
  /-- A number that the resolver does not know. -/
  | unknown (srid : Int32) (e : CrsError)
  /-- A number that does not fit in 32 bits. -/
  | unfit

namespace Reference

def of (resolver : CrsResolver) (n : Nat) : Reference :=
  match int32? n with
  | none => unfit
  | some srid =>
    match resolver srid with
    | .ok crs => known crs
    | .error e => unknown srid e

/-- A geometry in the reference system; the token is where its number stands. -/
def qualify (reference : Reference) (g : Geometry) (token : SourceToken) : Except Finding GeometryLiteral :=
  match reference with
  | known crs => .ok ⟨g, some crs⟩
  | unknown srid e => .error ⟨.unresolvedSrid srid, token, some e⟩
  | unfit => .error (.invalidSrid token)

variable {resolver : CrsResolver} {n : Nat}

theorem of_eq_unfit_iff : of resolver n = unfit ↔ 2147483647 < n := by
  have hfits : int32? n = none ↔ 2147483647 < n := by
    unfold int32?
    split <;> simp <;> omega
  rw [← hfits, of]
  cases int32? n with
  | none => simp
  | some srid => cases hresolved : resolver srid <;> simp [hresolved]

theorem qualify_of (g : Geometry) (token : SourceToken) :
    (of resolver n).qualify g token =
      match int32? n with
      | some srid => qualified resolver g srid token
      | none => .error (.invalidSrid token) := by
  rw [of]
  cases int32? n with
  | none => rfl
  | some srid =>
    dsimp only
    rw [qualified]
    cases resolver srid <;> rfl

end Reference

/-! ### Codes -/

section Codes

variable {number : String} (hnumber : IsDigits number)

include hnumber

theorem IsDigits.numeral : Numeral number.toList := by
  have hnumeral : Numeral (number.toList ++ [] ++ []) :=
    Scan.numeral_of_parts hnumber.digits (.inl rfl) (.inl rfl) fun hnil => absurd hnil hnumber.nonempty
  rwa [List.append_nil, List.append_nil] at hnumeral

theorem IsDigits.readInt32_eq : readInt32? number = int32? (digitsValue number.toList) := by
  rw [readInt32?, hnumber.numeral.readInt_eq, Scan.readDigits_isSome hnumber.nonempty hnumber.digits]
  rfl

omit hnumber in
theorem authority_solid {authority : String} (h : Text.sameIgnoringAsciiCase authority "EPSG" = true) :
    ∀ c ∈ authority.toList, Text.isBlank c = false ∧ c ≠ ':' := by
  intro c hc
  have hlower : c.toLower ∈ "EPSG".toList.map Char.toLower := by
    rw [← SameLetters.iff_lower.mp h]
    exact List.mem_map_of_mem hc
  have hletters : ∀ d ∈ "EPSG".toList.map Char.toLower, Text.isBlank d = false ∧ d ≠ ':' := by simp [Text.isBlank]
  obtain ⟨hblank, hcolon⟩ := hletters c.toLower hlower
  refine ⟨by rwa [Text.isBlank_toLower] at hblank, ?_⟩
  rintro rfl
  exact hcolon rfl

theorem NamesSystem.parseCode_eq {code : Token} (h : NamesSystem number code) :
    Crs.parseCode? code.text = int32? (digitsValue number.toList) := by
  have hsolid := hnumber.numeral.solid
  rw [← hnumber.readInt32_eq, Crs.parseCode?]
  cases h with
  | number long =>
    have hcolon : ∀ c ∈ number.toList, decide (c ≠ ':') = true := fun c hc => decide_eq_true fun hne => by
      have hdigit := hnumber.digits c hc
      rw [hne] at hdigit
      cases hdigit
    have htake : number.toList.takeWhile (· ≠ ':') = number.toList := List.takeWhile_eq_self_iff.mpr hcolon
    have hdrop : number.toList.dropWhile (· ≠ ':') = [] := List.dropWhile_eq_nil_iff.mpr hcolon
    rw [Token.text, Numeral.trimChars_eq hsolid, htake, hdrop]
    dsimp only
    rw [String.ofList_toList, hnumber.numeral.trimmed_eq]
  | @code authority hauthority =>
    have hauthority' := authority_solid hauthority
    have htext : (authority ++ ":" ++ number).toList = authority.toList ++ ':' :: number.toList := by
      simp [String.toList_append]
    have hall : ∀ c ∈ authority.toList ++ ':' :: number.toList, Text.isBlank c = false :=
      List.forall_mem_append.mpr ⟨fun c hc => (hauthority' c hc).1, List.forall_mem_cons.mpr ⟨by decide, hsolid⟩⟩
    have hcolon : ∀ c ∈ authority.toList, decide (c ≠ ':') = true := fun c hc => decide_eq_true (hauthority' c hc).2
    have htake : (authority.toList ++ ':' :: number.toList).takeWhile (· ≠ ':') = authority.toList := by
      rw [List.takeWhile_append_of_pos hcolon]
      simp
    have hdrop : (authority.toList ++ ':' :: number.toList).dropWhile (· ≠ ':') = ':' :: number.toList := by
      rw [List.dropWhile_append_of_pos hcolon]
      simp
    rw [Token.text, htext, Numeral.trimChars_eq hall, htake, hdrop]
    dsimp only
    rw [String.ofList_toList, if_pos hauthority, String.ofList_toList, hnumber.numeral.trimmed_eq]

variable (resolver : CrsResolver) (g : Geometry)

theorem NamesSystem.qualifiedByCode_eq {code : Token} (h : NamesSystem number code) (place : Place) :
    qualifiedByCode resolver g (some ⟨code.text, place⟩) =
      (Reference.of resolver (digitsValue number.toList)).qualify g ⟨code.text, place⟩ := by
  have hparse := h.parseCode_eq hnumber
  cases hint : int32? (digitsValue number.toList) <;> rw [qualifiedByCode, hparse, Reference.qualify_of, hint]

theorem IsDigits.qualifiedByToken_eq (place : Place) :
    qualifiedByToken resolver g ⟨number, place⟩ =
      (Reference.of resolver (digitsValue number.toList)).qualify g ⟨number, place⟩ := by
  have hread : readInt32? (Text.trimmed number) = int32? (digitsValue number.toList) := by
    rw [hnumber.numeral.trimmed_eq, hnumber.readInt32_eq]
  cases hint : int32? (digitsValue number.toList) <;> rw [qualifiedByToken, hread, Reference.qualify_of, hint]

end Codes

end GeoFilter
