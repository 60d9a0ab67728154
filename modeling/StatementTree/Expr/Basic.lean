import StatementTree.Literal
import StatementTree.Span

/-!
# Expressions

Expressions are what statements are built over: names, literals, calls with or without a
receiver, and operators. Parentheses are nodes of their own, so a tree prints exactly the
parentheses that it holds.
-/

namespace StatementTree

/-- The operators between two operands. -/
inductive BinaryOp where
  | or | and | eq | ne | lt | gt | le | ge | add | sub | mul | div | mod
  deriving DecidableEq

namespace BinaryOp

/-- The symbol that stands between the operands. -/
def symbol : BinaryOp → String
  | or => "||"
  | and => "&&"
  | eq => "=="
  | ne => "!="
  | lt => "<"
  | gt => ">"
  | le => "<="
  | ge => ">="
  | add => "+"
  | sub => "-"
  | mul => "*"
  | div => "/"
  | mod => "%"

end BinaryOp

/-- A name with the place where it was found. -/
structure Ident where
  /-- The name itself; it is printed as it stands. -/
  name : String
  /-- Where the name stands in the source. -/
  span : Span := {}
  deriving DecidableEq

/-- An expression. -/
inductive Expr where
  /-- A variable. -/
  | var (ident : Ident)
  /-- A literal. -/
  | constant (value : Literal)
  /-- A call of a function. -/
  | call (method : String) (args : List Expr)
  /-- A call of a method on a receiver. -/
  | methodCall (receiver : Expr) (method : String) (args : List Expr)
  /-- An operator between two operands. -/
  | binary (op : BinaryOp) (left right : Expr)
  /-- A negation. -/
  | not (operand : Expr)
  /-- An expression in parentheses. -/
  | paren (inner : Expr)

namespace Expr

/-- The default expression is the null constant. -/
instance : Inhabited Expr := ⟨constant .null⟩

/-- Induction over expressions that gives a hypothesis for every argument of a call. -/
@[elab_as_elim, induction_eliminator]
theorem induct {motive : Expr → Prop}
    (var : ∀ ident, motive (var ident))
    (constant : ∀ value, motive (constant value))
    (call : ∀ method args, (∀ arg ∈ args, motive arg) → motive (call method args))
    (methodCall : ∀ receiver method args, motive receiver → (∀ arg ∈ args, motive arg) →
      motive (methodCall receiver method args))
    (binary : ∀ op left right, motive left → motive right → motive (binary op left right))
    (not : ∀ operand, motive operand → motive (not operand))
    (paren : ∀ inner, motive inner → motive (paren inner))
    (e : Expr) : motive e :=
  @Expr.rec motive (fun args => ∀ arg ∈ args, motive arg)
    var constant call methodCall binary not paren
    (fun _ h => nomatch h)
    (fun _ _ hhead htail _ harg => by
      cases harg with
      | head => exact hhead
      | tail _ h => exact htail _ h)
    e

end Expr

end StatementTree
