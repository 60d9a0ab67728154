import StatementTree.Visitor.Basic

/-!
# Visiting from a worklist

A visit can also be run without recursion into the tree: a list holds what is still to be
visited, the first item is taken off and its action run, and a node that is entered puts its
parts in front of the rest. The list always shrinks in total size, so the run ends.
-/

namespace StatementTree

-- The sum of no weights is the zero of the core library, whichever others are in scope.
attribute [local instance (2000)] Zero.ofOfNat0

/-- What a worklist holds: the condition of a conditional that was entered, or a statement. -/
inductive Visitor.WorkItem where
  | condition (c : Condition)
  | statement (s : Statement)

namespace Visitor.WorkItem

/-- The size of what is to be visited. -/
noncomputable def weight : WorkItem → Nat
  | condition c => sizeOf c
  | statement s => sizeOf s

/-- The size of all that is still to be visited. -/
noncomputable def totalWeight (items : List WorkItem) : Nat := (items.map weight).sum

/-- The parts of a conditional, in the order in which they are visited. -/
def ofIf (node : IfStatement) : List WorkItem :=
  [condition node.condition, statement node.thenBranch, statement node.elseBranch]

/-- The statements of a block. -/
def ofBlock (node : BlockStatement) : List WorkItem := node.statements.map statement

/-- The first item adds its weight to that of the others. -/
theorem totalWeight_cons (item : WorkItem) (items : List WorkItem) :
    totalWeight (item :: items) = item.weight + totalWeight items := by
  simp [totalWeight]

/-- Items joined weigh as much as both parts. -/
theorem totalWeight_append (xs ys : List WorkItem) :
    totalWeight (xs ++ ys) = totalWeight xs + totalWeight ys := by
  simp [totalWeight]

/-- Every item weighs something, so the worklist gets lighter with every step. -/
theorem weight_pos (item : WorkItem) : 0 < item.weight := by
  cases item with
  | condition c =>
    cases c
    simp only [weight, Condition.mk.sizeOf_spec]
    omega
  | statement s =>
    cases s <;>
      simp only [weight, Statement.ifElse.sizeOf_spec, Statement.block.sizeOf_spec,
        Statement.expression.sizeOf_spec, Statement.returning.sizeOf_spec,
        Statement.empty.sizeOf_spec] <;>
      omega

/-- The parts of a conditional are smaller than the conditional. -/
theorem totalWeight_ofIf_lt (node : IfStatement) :
    totalWeight (ofIf node) < weight (statement node.toStatement) := by
  simp only [totalWeight, ofIf, weight, IfStatement.toStatement, List.map_cons, List.map_nil,
    List.sum_cons, List.sum_nil, Statement.ifElse.sizeOf_spec]
  omega

/-- The statements of a block are smaller than the block. -/
theorem totalWeight_ofBlock_lt (node : BlockStatement) :
    totalWeight (ofBlock node) < weight (statement node.toStatement) := by
  have hlist (statements : List Statement) :
      totalWeight (statements.map statement) < sizeOf statements := by
    induction statements with
    | nil => simp [totalWeight]
    | cons s rest ih =>
      simp only [List.map_cons, totalWeight_cons, weight, List.cons.sizeOf_spec]
      omega
  have hnode := hlist node.statements
  simp only [ofBlock, weight, BlockStatement.toStatement, Statement.block.sizeOf_spec]
  omega

end Visitor.WorkItem

namespace Visitor

variable {σ : Type}

/-- Runs a worklist until it is empty. -/
def drain (v : Visitor σ) : List WorkItem → σ → σ
  | [], state => state
  | .condition c :: rest, state => v.drain rest (v.onCondition c state)
  | .statement (.ifElse condition thenBranch elseBranch span) :: rest, state =>
    let node : IfStatement := ⟨condition, thenBranch, elseBranch, span⟩
    match v.onIf node state with
    | (state, .enter) => v.drain (WorkItem.ofIf node ++ rest) state
    | (state, .skip) => v.drain rest state
  | .statement (.block statements span) :: rest, state =>
    let node : BlockStatement := ⟨statements, span⟩
    match v.onBlock node state with
    | (state, .enter) => v.drain (WorkItem.ofBlock node ++ rest) state
    | (state, .skip) => v.drain rest state
  | .statement (.expression expr span) :: rest, state =>
    v.drain rest (v.onExpression ⟨expr, span⟩ state)
  | .statement (.returning value span) :: rest, state =>
    v.drain rest (v.onReturn ⟨value, span⟩ state)
  | .statement .empty :: rest, state => v.drain rest (v.onEmpty state)
termination_by items => WorkItem.totalWeight items
decreasing_by
  case _ => have := WorkItem.weight_pos (.condition c); rw [WorkItem.totalWeight_cons]; omega
  case _ =>
    have := WorkItem.totalWeight_ofIf_lt node
    rw [WorkItem.totalWeight_append, WorkItem.totalWeight_cons]
    exact Nat.add_lt_add_right this _
  case _ =>
    have := WorkItem.weight_pos (.statement node.toStatement)
    rw [WorkItem.totalWeight_cons]
    exact Nat.lt_add_of_pos_left this
  case _ =>
    have := WorkItem.totalWeight_ofBlock_lt node
    rw [WorkItem.totalWeight_append, WorkItem.totalWeight_cons]
    exact Nat.add_lt_add_right this _
  case _ =>
    have := WorkItem.weight_pos (.statement node.toStatement)
    rw [WorkItem.totalWeight_cons]
    exact Nat.lt_add_of_pos_left this
  all_goals
    rw [WorkItem.totalWeight_cons]
    exact Nat.lt_add_of_pos_left (WorkItem.weight_pos _)

end Visitor

end StatementTree
