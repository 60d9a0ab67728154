import StatementTree.Expr.Condition

/-!
# Statements

A statement is a conditional, a block, an expression evaluated for its effects, a return, or
nothing at all. Every conditional has both branches: where the source has no `else`, the else
branch is the empty statement. A block without statements is not the empty statement.
-/

namespace StatementTree

/-- A statement. -/
inductive Statement where
  /-- Runs one of two branches; both are present, and either may be empty. -/
  | ifElse (condition : Condition) (thenBranch elseBranch : Statement) (span : Span := {})
  /-- Runs its statements in order. -/
  | block (statements : List Statement) (span : Span := {})
  /-- Evaluates an expression for its effects. -/
  | expression (expr : Expr) (span : Span := {})
  /-- Leaves the program, with a value or without one. -/
  | returning (value : Option Expr) (span : Span := {})
  /-- Does nothing and prints as nothing. -/
  | empty

namespace Statement

/-- The default statement is the empty one. -/
instance : Inhabited Statement := ⟨empty⟩

/-- Only the empty statement is empty: a block without statements is not, nor is a conditional
whose branches are both empty. -/
def isEmpty : Statement → Bool
  | empty => true
  | _ => false

/-- Whether a statement is a block, with or without statements in it. -/
def isBlock : Statement → Bool
  | block .. => true
  | _ => false

/-- Where a statement stands in the source; the empty statement has no place of its own. -/
def span : Statement → Span
  | ifElse _ _ _ span => span
  | block _ span => span
  | expression _ span => span
  | returning _ span => span
  | empty => {}

/-- Only the empty statement is empty. -/
theorem isEmpty_iff {s : Statement} : s.isEmpty = true ↔ s = empty := by
  cases s <;> simp [isEmpty]

/-- Induction over statements that gives a hypothesis for every statement of a block. -/
@[elab_as_elim, induction_eliminator]
theorem induct {motive : Statement → Prop}
    (ifElse : ∀ condition thenBranch elseBranch span, motive thenBranch → motive elseBranch →
      motive (ifElse condition thenBranch elseBranch span))
    (block : ∀ statements span, (∀ s ∈ statements, motive s) → motive (block statements span))
    (expression : ∀ expr span, motive (expression expr span))
    (returning : ∀ value span, motive (returning value span))
    (empty : motive empty)
    (s : Statement) : motive s :=
  @Statement.rec motive (fun statements => ∀ s ∈ statements, motive s)
    ifElse block expression returning empty
    (fun _ h => nomatch h)
    (fun _ _ hhead htail _ hs => by
      cases hs with
      | head => exact hhead
      | tail _ h => exact htail _ h)
    s

end Statement

end StatementTree
