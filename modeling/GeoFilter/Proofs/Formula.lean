import GeoFilter.Proofs.Derivation.Expression
import GeoFilter.Proofs.Evaluation
import GeoFilter.Proofs.Spelling
import GeoFilter.Proofs.Yield.Predicate

/-!
# Formulas

Boolean formulas over comparisons of an attribute with an integer, as they are written down: NOT binds tighter than
AND and AND tighter than OR, and parentheses stand only around parts that bind less tightly than what they are
part of.  The predicate of a formula has the truth of the formula on every feature.
-/

namespace GeoFilter

/-! ### Atoms -/

/-- The text of an integer: digits, with a minus in front of them or not. -/
structure IntegerText where
  negative : Bool
  text : String
  long : Bool
  nonempty : text.toList ≠ []
  digits : ∀ d ∈ text.toList, d.isDigit = true

namespace IntegerText

theorem numeral (n : IntegerText) : Numeral n.text.toList := by
  have hnumeral : Numeral (n.text.toList ++ [] ++ []) :=
    Scan.numeral_of_parts n.digits (.inl rfl) (.inl rfl) fun hnil => absurd hnil n.nonempty
  rwa [List.append_nil, List.append_nil] at hnumeral

def value (n : IntegerText) : Number :=
  (Number.readSigned? n.negative n.text).get (Option.isSome_iff_exists.mpr (n.numeral.readSigned_isSome n.negative))

def number (n : IntegerText) : SignedNumber :=
  ⟨n.negative, n.text, n.long, n.value, (Option.some_get _).symm⟩

end IntegerText

/-- A comparison of an attribute, whose name is a single word without quotes and no keyword, with an integer. -/
structure AttributeTest where
  name : String
  plain : Scan.IsPlainWord name.toList
  free : Keyword.ofText? name = none
  op : ComparisonOp
  integer : IntegerText

namespace AttributeTest

def tokens (t : AttributeTest) : List Token :=
  .word t.name none :: .sign t.op.sign :: t.integer.number.tokens

def predicate (t : AttributeTest) : Predicate :=
  .comparison t.op (.property ⟨[t.name]⟩) (.literal (.number t.integer.value))

/-- Whether a test holds on a feature: the attribute has a value, and the value compares to the integer as the
operator says. -/
def holds (feature : Feature) (t : AttributeTest) : Bool :=
  (feature.property ⟨[t.name]⟩).any fun value =>
    Predicate.comparisonHolds t.op value (.number t.integer.value)

theorem evaluate_predicate [RegexLibrary] (feature : Feature) (t : AttributeTest) :
    t.predicate.evaluate feature = .ok (t.holds feature) := by
  rw [predicate, holds, Predicate.evaluate, Expression.evaluate, Expression.evaluate]
  cases feature.property ⟨[t.name]⟩ <;> rfl

end AttributeTest

/-! ### Formulas -/

/-- A boolean formula. -/
inductive Formula where
  | atom (test : AttributeTest)
  | not (f : Formula)
  | and (f g : Formula)
  | or (f g : Formula)

namespace Formula

def looseness : Formula → Nat
  | atom _ | not _ => 0
  | and _ _ => 1
  | or _ _ => 2

/-- Some tokens, in parentheses if they have to be. -/
def enclosedIf (enclosed : Prop) [Decidable enclosed] (ts : List Token) : List Token :=
  if enclosed then .sign .leftParen :: (ts ++ [.sign .rightParen]) else ts

def tokens : Formula → List Token
  | atom t => t.tokens
  | not f => .word "NOT" none :: enclosedIf (0 < f.looseness) (tokens f)
  | and f g =>
    enclosedIf (1 < f.looseness) (tokens f) ++ .word "AND" none :: enclosedIf (1 < g.looseness) (tokens g)
  | or f g => tokens f ++ .word "OR" none :: tokens g

/-- The tokens of a formula as part of one that binds its parts as loosely as given. -/
def part (limit : Nat) (f : Formula) : List Token :=
  enclosedIf (limit < f.looseness) f.tokens

/-- How many NOT and parentheses are open at most at any point of a formula. -/
def depth : Formula → Nat
  | atom _ => 0
  | not f => depth f + (if 0 < f.looseness then 1 else 0) + 1
  | and f g =>
    max (depth f + if 1 < f.looseness then 1 else 0) (depth g + if 1 < g.looseness then 1 else 0)
  | or f g => max (depth f) (depth g)

/-- How many NOT and parentheses are open at most at any point of a part. -/
def partDepth (limit : Nat) (f : Formula) : Nat :=
  f.depth + if limit < f.looseness then 1 else 0

/-- The text of a formula, with a blank between any two tokens. -/
def text (f : Formula) : String :=
  " ".intercalate (f.tokens.map Token.spelling)

/-- The truth of a formula, computed from the truth of its atoms. -/
def truth (value : AttributeTest → Bool) : Formula → Bool
  | atom t => value t
  | not f => !truth value f
  | and f g => truth value f && truth value g
  | or f g => truth value f || truth value g

def predicate : Formula → Predicate
  | atom t => t.predicate
  | not f => .not (predicate f)
  | and f g => .flatAnd (predicate f) (predicate g)
  | or f g => .flatOr [predicate f, predicate g]

theorem evaluate_predicate [RegexLibrary] (feature : Feature) (f : Formula) :
    f.predicate.evaluate feature = .ok (f.truth (AttributeTest.holds feature)) := by
  induction f with
  | atom t => exact t.evaluate_predicate feature
  | not f ih =>
    rw [predicate, Predicate.evaluate, ih]
    rfl
  | and f g ihf ihg =>
    rw [predicate, Predicate.evaluate_flatAnd, ihf, ihg, truth]
    cases f.truth (AttributeTest.holds feature) <;> rfl
  | or f g ihf ihg =>
    rw [predicate, Predicate.evaluate_flatOr, Predicate.evaluateAny, Predicate.evaluateAny, ihf, ihg, truth]
    cases f.truth (AttributeTest.holds feature) <;> cases g.truth (AttributeTest.holds feature) <;> rfl

/-! ### Formulas as rows -/

def conjuncts : Formula → Row Formula
  | and f g => (conjuncts f).append (conjuncts g)
  | f => ⟨f, []⟩

def disjuncts : Formula → Row Formula
  | or f g => (disjuncts f).append (disjuncts g)
  | f => ⟨f, []⟩

theorem part_conjuncts (f : Formula) : f.part 1 = f.conjuncts.joinedTokens (.word "AND" none) (part 0) := by
  induction f with
  | and f g ihf ihg =>
    rw [conjuncts, Row.joinedTokens_append, ← ihf, ← ihg]
    rfl
  | _ => exact (List.append_nil _).symm

theorem tokens_disjuncts (f : Formula) : f.tokens = f.disjuncts.joinedTokens (.word "OR" none) (part 1) := by
  induction f with
  | or f g ihf ihg => rw [disjuncts, Row.joinedTokens_append, ← ihf, ← ihg, tokens]
  | _ => exact (List.append_nil _).symm

theorem partDepth_conjunct {f : Formula} : ∀ g ∈ f.conjuncts.toList, g.partDepth 0 ≤ f.partDepth 1 := by
  induction f with
  | and f g ihf ihg =>
    intro h hh
    rw [conjuncts, Row.toList_append] at hh
    rcases List.mem_append.mp hh with hh | hh
    · exact Nat.le_trans (ihf h hh) (Nat.le_max_left _ _)
    · exact Nat.le_trans (ihg h hh) (Nat.le_max_right _ _)
  | _ => exact List.forall_mem_singleton.mpr (Nat.le_refl _)

theorem partDepth_disjunct {f : Formula} : ∀ g ∈ f.disjuncts.toList, g.partDepth 1 ≤ f.depth := by
  induction f with
  | or f g ihf ihg =>
    intro h hh
    rw [disjuncts, Row.toList_append] at hh
    rcases List.mem_append.mp hh with hh | hh
    · exact Nat.le_trans (ihf h hh) (Nat.le_max_left _ _)
    · exact Nat.le_trans (ihg h hh) (Nat.le_max_right _ _)
  | _ => exact List.forall_mem_singleton.mpr (Nat.le_refl _)

theorem combined_conjuncts (f : Formula) :
    f.conjuncts.combined Predicate.flatAnd predicate = f.predicate := by
  induction f with
  | and f g ihf ihg =>
    have happend : (f.conjuncts.append g.conjuncts).combined Predicate.flatAnd predicate =
        .flatAnd (f.conjuncts.combined .flatAnd predicate) (g.conjuncts.combined .flatAnd predicate) :=
      Row.combined_append (P := fun _ => True) (fun _ _ _ _ => trivial)
        (fun p q r _ _ _ => Predicate.flatAnd_assoc p q r) (fun _ _ => trivial) fun _ _ => trivial
    rw [conjuncts, happend, ihf, ihg, predicate]
  | _ => rfl

theorem disjuncts_predicate_ne_nil (f : Formula) : f.predicate.disjuncts ≠ [] := by
  induction f with
  | or f g ihf ihg => exact Predicate.disjuncts_flatOr_ne_nil ihf ihg
  | _ => exact List.cons_ne_nil _ _

theorem combined_disjuncts (f : Formula) :
    f.disjuncts.combined (fun p q => .flatOr [p, q]) predicate = f.predicate := by
  induction f with
  | or f g ihf ihg =>
    have happend : (f.disjuncts.append g.disjuncts).combined (fun p q => .flatOr [p, q]) predicate =
        .flatOr [f.disjuncts.combined (fun p q => .flatOr [p, q]) predicate,
          g.disjuncts.combined (fun p q => .flatOr [p, q]) predicate] :=
      Row.combined_append (P := fun p => p.disjuncts ≠ []) (fun p q => Predicate.disjuncts_flatOr_ne_nil)
        (fun p q r => Predicate.flatOr_assoc) (fun f _ => f.disjuncts_predicate_ne_nil)
        fun f _ => f.disjuncts_predicate_ne_nil
    rw [disjuncts, happend, ihf, ihg, predicate]
  | _ => rfl

end Formula

end GeoFilter
