import StatementTree.Statement.Node

/-!
# Equality of statements

Statements are compared node by node, spans included, and their expressions as expressions are
compared. So a statement that holds a NaN anywhere differs from itself.
-/

namespace StatementTree

namespace Statement

mutual

/-- Whether two statements have the same shape and equal parts. -/
def beq : Statement → Statement → Bool
  | ifElse a s t p, ifElse b u v q => a == b && s.beq u && t.beq v && p = q
  | block ss p, block ts q => p = q && beqAll ss ts
  | expression a p, expression b q => a == b && p = q
  | returning a p, returning b q => a == b && p = q
  | empty, empty => true
  | _, _ => false

/-- Whether two lists of statements are equally long and equal at every place. -/
def beqAll : List Statement → List Statement → Bool
  | [], [] => true
  | s :: ss, t :: ts => s.beq t && beqAll ss ts
  | _, _ => false

end

/-- Statements are compared with their own `beq`. -/
instance : BEq Statement := ⟨beq⟩

end Statement

/-- Conditionals are equal when they are so as statements. -/
instance : BEq IfStatement := ⟨fun a b => a.toStatement == b.toStatement⟩

/-- Blocks are equal when they are so as statements. -/
instance : BEq BlockStatement := ⟨fun a b => a.toStatement == b.toStatement⟩

end StatementTree
