import StatementTree.Statement.Node

/-!
# Visitors

A visitor is one action for every kind of node, each of which updates a state. Visiting a
statement runs the one action that belongs to its kind. The actions for conditionals and blocks
also decide, by the node and the state, whether the visit enters the node. Entering a
conditional visits its condition, then its then branch, then its else branch, empty or not;
entering a block visits its statements in order. An action that is left out changes nothing and
enters.
-/

namespace StatementTree

/-- Whether a visit goes on inside a node. -/
inductive Descent where
  /-- The parts of the node are visited. -/
  | enter
  /-- The visit goes on behind the node. -/
  | skip
  deriving DecidableEq

/-- What to do at each kind of node. -/
structure Visitor (σ : Type) where
  /-- The action for a conditional, before its parts. -/
  onIf : IfStatement → σ → σ × Descent := fun _ state => (state, .enter)
  /-- The action for a block, before its statements. -/
  onBlock : BlockStatement → σ → σ × Descent := fun _ state => (state, .enter)
  /-- The action for an expression statement. -/
  onExpression : ExpressionStatement → σ → σ := fun _ state => state
  /-- The action for a return. -/
  onReturn : ReturnStatement → σ → σ := fun _ state => state
  /-- The action for the empty statement. -/
  onEmpty : σ → σ := id
  /-- The action for the condition of a conditional that is entered. -/
  onCondition : Condition → σ → σ := fun _ state => state

namespace Visitor

variable {σ : Type}

mutual

/-- Visits a statement and what it enters. -/
def visit (v : Visitor σ) : Statement → σ → σ
  | .ifElse condition thenBranch elseBranch span, state =>
    match v.onIf ⟨condition, thenBranch, elseBranch, span⟩ state with
    | (state, .enter) =>
      v.visit elseBranch (v.visit thenBranch (v.onCondition condition state))
    | (state, .skip) => state
  | .block statements span, state =>
    match v.onBlock ⟨statements, span⟩ state with
    | (state, .enter) => v.visitAll statements state
    | (state, .skip) => state
  | .expression expr span, state => v.onExpression ⟨expr, span⟩ state
  | .returning value span, state => v.onReturn ⟨value, span⟩ state
  | .empty, state => v.onEmpty state

/-- Visits statements in order. -/
def visitAll (v : Visitor σ) : List Statement → σ → σ
  | [], state => state
  | s :: rest, state => v.visitAll rest (v.visit s state)

end

/-- Visiting two lists in a row is visiting them joined. -/
theorem visitAll_append (v : Visitor σ) (xs ys : List Statement) (state : σ) :
    v.visitAll (xs ++ ys) state = v.visitAll ys (v.visitAll xs state) := by
  induction xs generalizing state with
  | nil => simp [visitAll]
  | cons s xs ih => simp [visitAll, ih]

end Visitor

end StatementTree
