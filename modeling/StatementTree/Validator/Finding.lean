import StatementTree.Diagnostic

/-!
# Findings

What the validator looks for: conditionals that do nothing when their condition holds, an
`else` with an empty block behind it, and conditions that are constant. Each finding is about
one node and carries the place of that node.
-/

namespace StatementTree

/-- Something in a tree that is allowed but suspicious. -/
inductive Finding where
  /-- The then branch of the conditional at this place is empty. -/
  | emptyThenBranch (conditional : Span)
  /-- The else branch of a conditional is the block at this place, which holds nothing. -/
  | emptyElseBlock (block : Span)
  /-- The condition at this place always has this value. -/
  | constantCondition (value : Bool) (condition : Span)
  deriving DecidableEq

namespace Finding

/-- The only branch that can run under a constant condition. -/
def takenBranch (value : Bool) : String := if value then "then" else "else"

/-- What is reported about a finding. -/
def toDiagnostic : Finding → Diagnostic
  | emptyThenBranch span =>
    (Diagnostic.warning "empty then-branch" span).withHint "nothing runs when the condition holds"
  | emptyElseBlock span =>
    (Diagnostic.warning "empty else block" span).withHint "drop the `else` clause"
  | constantCondition value span =>
    (Diagnostic.warning ("constant condition `" ++ toString value ++ "`") span).withHint
      ("only the " ++ takenBranch value ++ "-branch can run")

end Finding

end StatementTree
