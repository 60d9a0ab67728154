import StatementTree.Expr.Text
import StatementTree.Expr.Equality

/-!
# Conditions

A condition is an expression that stands where a truth value is required, with a position of
its own. It prints as its expression does. A condition is constant when its expression is a
boolean literal, whatever parentheses are around it.
-/

namespace StatementTree

/-- The boolean that an expression spells, looking through parentheses. -/
def Expr.booleanConstant? : Expr → Option Bool
  | constant (.boolean value) => some value
  | paren inner => inner.booleanConstant?
  | _ => none

/-- An expression used where a truth value is required. -/
structure Condition where
  /-- The expression that is tested. -/
  expr : Expr
  /-- Where the condition stands in the source. -/
  span : Span := {}

namespace Condition

/-- Any expression can be used as a condition; it then has no position. -/
instance : Coe Expr Condition := ⟨fun expr => { expr }⟩

/-- The truth value that the condition always has, if it is a constant. -/
def constantValue? (c : Condition) : Option Bool := c.expr.booleanConstant?

/-- The text of a condition is that of its expression. -/
def text (c : Condition) : String := c.expr.text

/-- Conditions are equal when their expressions are and they stand in the same place. -/
def beq (a b : Condition) : Bool := a.expr == b.expr && a.span = b.span

/-- Conditions are compared with their own `beq`. -/
instance : BEq Condition := ⟨beq⟩

end Condition

end StatementTree
