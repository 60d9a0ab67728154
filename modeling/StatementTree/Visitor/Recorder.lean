import StatementTree.Statement.Text
import StatementTree.Visitor.Basic

/-!
# Visitors that write down what they meet

A recorder keeps a list of its visits in the order in which they happened. Which nodes it
enters is a choice of its own.
-/

namespace StatementTree

/-- One visit, with what it saw. -/
inductive Visit where
  /-- A conditional, by its place. -/
  | ifElse (span : Span)
  /-- A block, by the number of its statements. -/
  | block (length : Nat)
  /-- An expression statement, by its text. -/
  | expression (text : String)
  /-- A return, by the text of its value. -/
  | returning (value : Option String)
  /-- The empty statement. -/
  | empty
  /-- A condition, by its text. -/
  | condition (text : String)
  deriving DecidableEq

namespace Visitor

/-- Goes on inside a node or not. -/
def descend (enters : Bool) : Descent := if enters then .enter else .skip

/-- Records every visit, and enters the kinds of nodes that it is told to enter. -/
def recorder (entersIfs entersBlocks : Bool) : Visitor (Array Visit) where
  onIf node visits := (visits.push (.ifElse node.span), descend entersIfs)
  onBlock node visits := (visits.push (.block node.length), descend entersBlocks)
  onExpression node visits := visits.push (.expression node.expr.text)
  onReturn node visits := visits.push (.returning (node.value.map Expr.text))
  onEmpty visits := visits.push .empty
  onCondition condition visits := visits.push (.condition condition.text)

/-- Records the texts of all expression statements, and nothing for each empty statement. -/
def leaves : Visitor (Array (Option String)) where
  onExpression node texts := texts.push (some node.expr.text)
  onEmpty texts := texts.push none

/-- Records all conditions. -/
def conditions : Visitor (Array Condition) where
  onCondition condition seen := seen.push condition

end Visitor

end StatementTree
