import StatementTree.Statement.Node

/-!
# The floating-point numbers of a value

JSON has no spelling for infinity and NaN, so what becomes of an encoded value depends on the
floating-point numbers inside it. They are listed here in the order in which they are written.
-/

namespace StatementTree

/-- Whether all of some floating-point numbers have a spelling as a number. -/
def AllFinite (floats : List Binary64) : Prop := ∀ x ∈ floats, x.isFinite = true

/-- Whether some numbers are finite can be computed. -/
instance (floats : List Binary64) : Decidable (AllFinite floats) :=
  inferInstanceAs (Decidable (∀ x ∈ floats, x.isFinite = true))

/-- Every number of an empty list is finite. -/
@[simp] theorem allFinite_nil : AllFinite [] := by simp [AllFinite]

/-- A list of one number is finite when the number is. -/
@[simp] theorem allFinite_singleton (x : Binary64) : AllFinite [x] ↔ x.isFinite = true := by
  simp [AllFinite]

/-- Joined lists are finite when both are. -/
@[simp] theorem allFinite_append (xs ys : List Binary64) :
    AllFinite (xs ++ ys) ↔ AllFinite xs ∧ AllFinite ys := by
  simp [AllFinite, or_imp, forall_and]

/-- Not all numbers are finite when one of them is infinite or NaN. -/
theorem not_allFinite_iff (floats : List Binary64) :
    ¬ AllFinite floats ↔ ∃ x ∈ floats, x.isNaN = true ∨ x.isInfinite = true := by
  simp only [AllFinite, Classical.not_forall, exists_prop]
  refine exists_congr fun x => and_congr_right fun _ => ?_
  rw [Binary64.isFinite_eq_not]
  cases x.isNaN <;> cases x.isInfinite <;> simp

/-- The number of a floating-point literal. -/
def Literal.floats : Literal → List Binary64
  | float x => [x]
  | _ => []

namespace Expr

mutual

/-- The floating-point literals of an expression, from left to right. -/
def floats : Expr → List Binary64
  | var _ => []
  | constant value => value.floats
  | call _ args => floatsAll args
  | methodCall receiver _ args => receiver.floats ++ floatsAll args
  | binary _ left right => left.floats ++ right.floats
  | not operand => operand.floats
  | paren inner => inner.floats

/-- The floating-point literals of some expressions in order. -/
def floatsAll : List Expr → List Binary64
  | [] => []
  | e :: rest => e.floats ++ floatsAll rest

end

end Expr

/-- The floating-point literals of a condition. -/
def Condition.floats (c : Condition) : List Binary64 := c.expr.floats

namespace Statement

mutual

/-- The floating-point literals of a statement, from left to right. -/
def floats : Statement → List Binary64
  | ifElse condition thenBranch elseBranch _ =>
    condition.floats ++ thenBranch.floats ++ elseBranch.floats
  | block statements _ => floatsAll statements
  | expression expr _ => expr.floats
  | returning none _ => []
  | returning (some value) _ => value.floats
  | empty => []

/-- The floating-point literals of some statements in order. -/
def floatsAll : List Statement → List Binary64
  | [] => []
  | s :: rest => s.floats ++ floatsAll rest

end

end Statement

end StatementTree
