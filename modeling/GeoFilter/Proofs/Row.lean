import GeoFilter.Proofs.Derivation
import Mathlib.Data.List.Forall2

/-!
# Rows

One or more parts of a text, with commas or words between them.
-/

namespace GeoFilter

/-- One or more parts. -/
structure Row (α : Type) where
  first : α
  others : List α

namespace Row

def toList (row : Row α) : List α := row.first :: row.others

def last (row : Row α) : α := row.others.getLastD row.first

/-- The parts in parentheses, with commas between them. -/
def tokens (ofPart : α → List Token) (row : Row α) : List Token :=
  .sign .leftParen :: (commaTokens ofPart row.toList ++ [.sign .rightParen])

/-- What the parts write, if every part writes something. -/
def values? (ofPart? : α → Option β) (row : Row α) : Option (Row β) := do
  let b ← ofPart? row.first
  let bs ← row.others.mapM ofPart?
  return ⟨b, bs⟩

theorem mapM_eq_some {ofPart? : α → Option β} {as : List α} {bs : List β} :
    as.mapM ofPart? = some bs ↔ List.Forall₂ (fun a b => ofPart? a = some b) as bs := by
  induction as generalizing bs with
  | nil => cases bs <;> simp
  | cons a as ih =>
    rw [List.mapM_cons]
    cases ha : ofPart? a with
    | none => cases bs <;> simp [ha]
    | some b =>
      cases has : as.mapM ofPart? with
      | none => cases bs <;> simp [ha, ← ih, has]
      | some bs' => cases bs <;> simp [ha, ← ih, has]

theorem forall_mem_iff {R : α → β → Prop} {P : α → Prop} {Q : β → Prop} {as : List α} {bs : List β}
    (h : List.Forall₂ R as bs) (hPQ : ∀ a b, R a b → (P a ↔ Q b)) :
    (∀ a ∈ as, P a) ↔ ∀ b ∈ bs, Q b := by
  induction h with
  | nil => simp
  | cons hab _ ih => rw [List.forall_mem_cons, List.forall_mem_cons, hPQ _ _ hab, ih]

theorem values?_eq_some {ofPart? : α → Option β} {row : Row α} {row' : Row β} :
    row.values? ofPart? = some row' ↔
      List.Forall₂ (fun a b => ofPart? a = some b) row.toList row'.toList := by
  rw [← mapM_eq_some, toList, List.mapM_cons, values?]
  cases ofPart? row.first with
  | none => simp
  | some b =>
    cases row.others.mapM ofPart? with
    | none => simp
    | some bs =>
      rcases row' with ⟨first, others⟩
      simp [toList]

theorem values?_some (f : α → β) (row : Row α) :
    row.values? (fun a => some (f a)) = some ⟨f row.first, row.others.map f⟩ := by
  have hothers : row.others.mapM (fun a => some (f a)) = some (row.others.map f) := List.mapM_pure
  simp [values?, hothers]

theorem isSome_values? {ofPart? : α → Option β} (row : Row α) :
    (row.values? ofPart?).isSome ↔ ∀ a ∈ row.toList, (ofPart? a).isSome := by
  have hmapM : ∀ as : List α, (as.mapM ofPart?).isSome ↔ ∀ a ∈ as, (ofPart? a).isSome := by
    intro as
    induction as with
    | nil => simp
    | cons a as ih =>
      rw [List.mapM_cons, List.forall_mem_cons, ← ih]
      cases ofPart? a <;> cases as.mapM ofPart? <;> simp
  rw [← hmapM, toList, List.mapM_cons, values?]
  cases ofPart? row.first <;> cases row.others.mapM ofPart? <;> simp

/-! ### Parts with a word between them -/

def joinedTokens (between : Token) (ofPart : α → List Token) (row : Row α) : List Token :=
  ofPart row.first ++ row.others.flatMap fun a => between :: ofPart a

def combined (combine : β → β → β) (value : α → β) (row : Row α) : β :=
  (row.others.map value).foldl combine (value row.first)

def append (row row' : Row α) : Row α := ⟨row.first, row.others ++ row'.toList⟩

theorem toList_append (row row' : Row α) : (row.append row').toList = row.toList ++ row'.toList := rfl

theorem joinedTokens_append (between : Token) (ofPart : α → List Token) (row row' : Row α) :
    (row.append row').joinedTokens between ofPart =
      row.joinedTokens between ofPart ++ between :: row'.joinedTokens between ofPart := by
  simp [joinedTokens, append, toList]

section Combination

variable {combine : β → β → β} {P : β → Prop} (hclosed : ∀ a b, P a → P b → P (combine a b))

include hclosed

theorem combined_of_closed {value : α → β} {row : Row α} (h : ∀ a ∈ row.toList, P (value a)) :
    P (row.combined combine value) := by
  have hfold : ∀ (bs : List β) (b : β), P b → (∀ c ∈ bs, P c) → P (bs.foldl combine b) := by
    intro bs
    induction bs with
    | nil => exact fun _ hb _ => hb
    | cons c bs ih =>
      intro b hb hbs
      have hc := hbs c List.mem_cons_self
      exact ih (combine b c) (hclosed b c hb hc) fun d hd => hbs d (List.mem_cons_of_mem _ hd)
  have hothers : ∀ b ∈ row.others.map value, P b :=
    List.forall_mem_map.mpr fun a ha => h a (List.mem_cons_of_mem _ ha)
  exact hfold _ _ (h row.first List.mem_cons_self) hothers

/-- It makes no difference where a row is cut, if it makes none how its parts are combined. -/
theorem combined_append
    (hassoc : ∀ a b c, P a → P b → P c → combine (combine a b) c = combine a (combine b c))
    {value : α → β} {row row' : Row α} (hrow : ∀ a ∈ row.toList, P (value a))
    (hrow' : ∀ a ∈ row'.toList, P (value a)) :
    (row.append row').combined combine value =
      combine (row.combined combine value) (row'.combined combine value) := by
  have hfold : ∀ (bs : List β) (b b' : β), P b → P b' → (∀ c ∈ bs, P c) →
      bs.foldl combine (combine b b') = combine b (bs.foldl combine b') := by
    intro bs
    induction bs with
    | nil => exact fun _ _ _ _ _ => rfl
    | cons c bs ih =>
      intro b b' hb hb' hbs
      have hc := hbs c List.mem_cons_self
      rw [List.foldl_cons, hassoc b b' c hb hb' hc]
      exact ih b (combine b' c) hb (hclosed b' c hb' hc) fun d hd => hbs d (List.mem_cons_of_mem _ hd)
  have hothers : ∀ b ∈ row'.others.map value, P b :=
    List.forall_mem_map.mpr fun a ha => hrow' a (List.mem_cons_of_mem _ ha)
  unfold combined append toList
  rw [List.map_append, List.foldl_append, List.map_cons, List.foldl_cons]
  exact hfold _ _ _ (combined_of_closed hclosed hrow) (hrow' _ List.mem_cons_self) hothers

end Combination

end Row

end GeoFilter
