import GeoFilter.Tree.Factory

/-!
# Heights of trees

How deep a tree is, and why: a tree is high because its nodes are nested, or because operators stand in a long row, each
with the one before it on its left.  `height` counts every operator, `nesting` counts a row of operators once, above all
its operands, as a flat AND is counted once above all its children, and `longestChain` is the length of the longest row.
-/

namespace GeoFilter

/-! ### Expressions -/

namespace Expression

mutual

/-- How many calls and operators are nested in each other at most. -/
def height : Expression → Nat
  | .property _ | .literal _ => 0
  | .function _ args => heightOfAll args + 1
  | .arithmetic _ left right => max (height left) (height right) + 1

def heightOfAll : List Expression → Nat
  | [] => 0
  | x :: xs => max (height x) (heightOfAll xs)

end

mutual

/-- How many calls and rows of operators are nested in each other at most. -/
def nesting : Expression → Nat
  | .property _ | .literal _ => 0
  | .function _ args => nestingOfAll args + 1
  | .arithmetic _ left right => max (operandNesting left) (nesting right) + 1

/-- The greatest nesting of the operands of the row that an expression ends with, or of what is no operator. -/
def operandNesting : Expression → Nat
  | .property _ | .literal _ => 0
  | .function _ args => nestingOfAll args + 1
  | .arithmetic _ left right => max (operandNesting left) (nesting right)

def nestingOfAll : List Expression → Nat
  | [] => 0
  | x :: xs => max (nesting x) (nestingOfAll xs)

end

/-- `f(a) + b + c`: a row above a call. -/
example : (Expression.arithmetic .add (.arithmetic .add (.function "f" [.property ⟨["a"]⟩]) (.property ⟨["b"]⟩))
    (.property ⟨["c"]⟩)).nesting = 2 := by decide

/-- How many operators an expression ends with, each with the one before it on its left. -/
def chain : Expression → Nat
  | .arithmetic _ left _ => chain left + 1
  | _ => 0

mutual

/-- How many operators there are in a row at most, each with the one before it on its left. -/
def longestChain : Expression → Nat
  | .property _ | .literal _ => 0
  | .function _ args => longestChainOfAll args
  | .arithmetic _ left right => max (chain left + 1) (max (longestChain left) (longestChain right))

/-- The longest row of operators in some expressions. -/
def longestChainOfAll : List Expression → Nat
  | [] => 0
  | x :: xs => max (longestChain x) (longestChainOfAll xs)

end

theorem nestingOfAll_le {xs : List Expression} {n : Nat} : nestingOfAll xs ≤ n ↔ ∀ x ∈ xs, x.nesting ≤ n := by
  induction xs with
  | nil => simp [nestingOfAll]
  | cons x xs ih => rw [nestingOfAll, Nat.max_le, ih, List.forall_mem_cons]

theorem chain_le_longestChain (x : Expression) : x.chain ≤ x.longestChain := by
  cases x with
  | arithmetic op left right => exact Nat.le_max_left _ _
  | _ => exact Nat.zero_le _

theorem operandNesting_le_nesting (x : Expression) : x.operandNesting ≤ x.nesting := by
  cases x with
  | arithmetic op left right => exact Nat.le_succ _
  | _ => exact Nat.le_refl _

theorem nesting_le_of_operands {x : Expression} {n : Nat} (h : x.operandNesting ≤ n) : x.nesting ≤ n + 1 := by
  cases x with
  | arithmetic op left right => exact Nat.succ_le_succ h
  | _ => exact Nat.le_succ_of_le h

/-- What is known of the row an expression ends with is known of the whole: its row is at most the longest one. -/
theorem height_le_of_row {x : Expression} {n : Nat} (hchain : x.longestChain ≤ n)
    (h : x.height ≤ (n + 1) * x.operandNesting + x.chain) : x.height ≤ (n + 1) * x.nesting := by
  have hrow := chain_le_longestChain x
  cases x with
  | arithmetic op left right =>
    change height _ ≤ (n + 1) * (operandNesting (.arithmetic op left right) + 1)
    rw [Nat.mul_succ]
    omega
  | _ => exact h

mutual

/-- An expression is as high as its operands, which are as high as their nesting times the longest row, and the row of
operators that it ends with. -/
theorem height_le {n : Nat} : ∀ x : Expression, x.longestChain ≤ n → x.height ≤ (n + 1) * x.operandNesting + x.chain
  | .property _, _ | .literal _, _ => by simp [height]
  | .function name args, h => by
    have hargs := heightOfAll_le args h
    change heightOfAll args + 1 ≤ (n + 1) * (nestingOfAll args + 1) + 0
    rw [Nat.mul_succ]
    omega
  | .arithmetic op left right, h => by
    rw [longestChain, Nat.max_le, Nat.max_le] at h
    have hleft := height_le left h.2.1
    have hright := height_le_of_row h.2.2 (height_le right h.2.2)
    -- the row on the left goes on, and what stands on the right is one more operand of it
    rw [height, operandNesting, chain, ← Nat.mul_max_mul_left]
    omega

theorem heightOfAll_le {n : Nat} : ∀ xs : List Expression, longestChainOfAll xs ≤ n →
    heightOfAll xs ≤ (n + 1) * nestingOfAll xs
  | [], _ => by simp [heightOfAll]
  | x :: xs, h => by
    rw [longestChainOfAll, Nat.max_le] at h
    have hx := height_le_of_row h.1 (height_le x h.1)
    have hxs := heightOfAll_le xs h.2
    rw [heightOfAll, nestingOfAll, ← Nat.mul_max_mul_left]
    omega

end

theorem height_lt {x : Expression} {n : Nat} (h : x.longestChain ≤ n) : x.height < (n + 1) * (x.nesting + 1) := by
  have hheight := height_le_of_row h (height_le x h)
  rw [Nat.mul_succ]
  omega

end Expression

/-! ### Predicates -/

namespace Predicate

mutual

/-- How many AND, OR and NOT are nested in each other at most, each of which counts the same, on top of what is counted
of the operands. -/
def measure (count : Expression → Nat) (step : Nat) : Predicate → Nat
  | .includeAll | .excludeAll | .featureIds _ => 0
  | .and children | .or children => measureOfAll count step children + step
  | .not child => measure count step child + step
  | .comparison _ left right | .spatial _ left right | .distance _ left right _ _ => max (count left) (count right)
  | .isNull value | .like value _ _ => count value
  | .between value lower upper => max (count value) (max (count lower) (count upper))

def measureOfAll (count : Expression → Nat) (step : Nat) : List Predicate → Nat
  | [] => 0
  | p :: ps => max (measure count step p) (measureOfAll count step ps)

end

/-- How many AND, OR, NOT, calls and operators are nested in each other at most. -/
def height : Predicate → Nat := measure Expression.height 1

/-- How many AND, OR, NOT, calls and rows of operators are nested in each other at most. -/
def nesting : Predicate → Nat := measure Expression.nesting 1

/-- How many operators there are in a row at most, each with the one before it on its left. -/
def longestChain : Predicate → Nat := measure Expression.longestChain 0

theorem measureOfAll_le {count : Expression → Nat} {step : Nat} {ps : List Predicate} {n : Nat} :
    measureOfAll count step ps ≤ n ↔ ∀ p ∈ ps, p.measure count step ≤ n := by
  induction ps with
  | nil => simp [measureOfAll]
  | cons p ps ih => rw [measureOfAll, Nat.max_le, ih, List.forall_mem_cons]

theorem max_lt_mul {n a a' b b' : Nat} (h : a < (n + 1) * (b + 1)) (h' : a' < (n + 1) * (b' + 1)) :
    max a a' < (n + 1) * (max b b' + 1) := by
  rw [Nat.mul_succ] at h h' ⊢
  rw [← Nat.mul_max_mul_left]
  omega

theorem succ_lt_mul {n a b : Nat} (h : a < (n + 1) * (b + 1)) : a + 1 < (n + 1) * (b + 1 + 1) := by
  rw [Nat.mul_succ]
  omega

mutual

/-- Without long rows of operators a predicate is not much higher than its nesting. -/
theorem height_lt {n : Nat} : ∀ p : Predicate, p.longestChain ≤ n → p.height < (n + 1) * (p.nesting + 1)
  | .includeAll, _ | .excludeAll, _ | .featureIds _, _ => Nat.mul_pos n.succ_pos (Nat.succ_pos _)
  | .and children, h | .or children, h => succ_lt_mul (heightOfAll_lt children h)
  | .not child, h => succ_lt_mul (height_lt child h)
  | .comparison .., h | .spatial .., h | .distance .., h =>
    max_lt_mul (Expression.height_lt (Nat.max_le.mp h).1) (Expression.height_lt (Nat.max_le.mp h).2)
  | .isNull _, h | .like .., h => Expression.height_lt h
  | .between .., h =>
    max_lt_mul (Expression.height_lt (Nat.max_le.mp h).1) (max_lt_mul
      (Expression.height_lt (Nat.max_le.mp (Nat.max_le.mp h).2).1)
      (Expression.height_lt (Nat.max_le.mp (Nat.max_le.mp h).2).2))

theorem heightOfAll_lt {n : Nat} : ∀ ps : List Predicate, measureOfAll Expression.longestChain 0 ps ≤ n →
    measureOfAll Expression.height 1 ps < (n + 1) * (measureOfAll Expression.nesting 1 ps + 1)
  | [], _ => Nat.mul_pos n.succ_pos (Nat.succ_pos _)
  | p :: ps, h => max_lt_mul (height_lt p (Nat.max_le.mp h).1) (heightOfAll_lt ps (Nat.max_le.mp h).2)

end

end Predicate

end GeoFilter
