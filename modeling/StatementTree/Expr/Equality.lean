import StatementTree.Expr.Basic

/-!
# Equality of expressions

Expressions are compared node by node, spans included. Floating-point literals are compared as
numbers, so an expression that holds a NaN differs from every expression, itself included.
-/

namespace StatementTree

namespace Expr

mutual

/-- Whether two expressions have the same shape and equal leaves. -/
def beq : Expr → Expr → Bool
  | var a, var b => a = b
  | constant a, constant b => a == b
  | call m xs, call n ys => m = n && beqArgs xs ys
  | methodCall r m xs, methodCall s n ys => r.beq s && m = n && beqArgs xs ys
  | binary o a b, binary p c d => o = p && a.beq c && b.beq d
  | not a, not b => a.beq b
  | paren a, paren b => a.beq b
  | _, _ => false

/-- Whether two argument lists are equally long and equal at every place. -/
def beqArgs : List Expr → List Expr → Bool
  | [], [] => true
  | x :: xs, y :: ys => x.beq y && beqArgs xs ys
  | _, _ => false

end

/-- Expressions are compared with their own `beq`. -/
instance : BEq Expr := ⟨beq⟩

end Expr

end StatementTree
