import StatementTree.Statement.Basic

/-!
# The kinds of statements on their own

Each kind of statement that holds anything is also a structure, for code that builds, edits or
visits nodes of one kind. A conditional is built from parts that may be absent: the condition
and the then branch are required, and an absent else branch is the empty statement.
-/

namespace StatementTree

/-- Why a conditional could not be built or edited. -/
inductive BuildError where
  /-- There was no condition. -/
  | absentCondition
  /-- There was no then branch. -/
  | absentThenBranch
  deriving DecidableEq

namespace BuildError

/-- The name of the part that was absent. -/
def part : BuildError → String
  | absentCondition => "condition"
  | absentThenBranch => "then_branch"

/-- What is reported to the caller. -/
def message (e : BuildError) : String :=
  "Invalid argument: `" ++ e.part ++ "` must not be absent"

end BuildError

/-- A conditional: `if (condition) thenBranch else elseBranch`. -/
structure IfStatement where
  /-- What decides between the branches. -/
  condition : Condition
  /-- What runs when the condition holds. -/
  thenBranch : Statement
  /-- What runs when the condition fails; empty when the source has no `else`. -/
  elseBranch : Statement
  /-- Where the conditional stands in the source. -/
  span : Span := {}

namespace IfStatement

/-- A conditional as a statement. -/
def toStatement (node : IfStatement) : Statement :=
  .ifElse node.condition node.thenBranch node.elseBranch node.span

/-- A conditional stands where a statement is expected. -/
instance : Coe IfStatement Statement := ⟨toStatement⟩

/-- Builds a conditional from parts that may be absent. The condition is asked for first. -/
def ofParts (condition : Option Condition) (thenBranch elseBranch : Option Statement) :
    Except BuildError IfStatement :=
  match condition, thenBranch with
  | none, _ => .error .absentCondition
  | some _, none => .error .absentThenBranch
  | some condition, some thenBranch =>
    .ok { condition, thenBranch, elseBranch := elseBranch.getD .empty }

/-- Whether the conditional has an `else` at all. -/
def hasElse (node : IfStatement) : Bool := !node.elseBranch.isEmpty

end IfStatement

/-- A block of statements. -/
structure BlockStatement where
  /-- What the block runs, in order. -/
  statements : List Statement := []
  /-- Where the block stands in the source. -/
  span : Span := {}

namespace BlockStatement

/-- A block as a statement. -/
def toStatement (node : BlockStatement) : Statement := .block node.statements node.span

/-- A block stands where a statement is expected. -/
instance : Coe BlockStatement Statement := ⟨toStatement⟩

/-- The number of statements in the block. -/
def length (node : BlockStatement) : Nat := node.statements.length

/-- Whether the block holds no statements. -/
def isEmpty (node : BlockStatement) : Bool := node.statements.isEmpty

/-- Puts a statement at the end of the block. -/
def push (node : BlockStatement) (s : Statement) : BlockStatement :=
  { node with statements := node.statements ++ [s] }

end BlockStatement

/-- An expression evaluated for its effects. -/
structure ExpressionStatement where
  /-- The expression that is evaluated. -/
  expr : Expr
  /-- Where the statement stands in the source. -/
  span : Span := {}

/-- An expression statement as a statement. -/
def ExpressionStatement.toStatement (node : ExpressionStatement) : Statement :=
  .expression node.expr node.span

/-- An expression statement stands where a statement is expected. -/
instance : Coe ExpressionStatement Statement := ⟨ExpressionStatement.toStatement⟩

/-- A return, with a value or without one. -/
structure ReturnStatement where
  /-- The expression whose value is returned. -/
  value : Option Expr := none
  /-- Where the statement stands in the source. -/
  span : Span := {}

/-- A return as a statement. -/
def ReturnStatement.toStatement (node : ReturnStatement) : Statement :=
  .returning node.value node.span

/-- A return stands where a statement is expected. -/
instance : Coe ReturnStatement Statement := ⟨ReturnStatement.toStatement⟩

/-- Conditionals that are the same statement are the same node. -/
theorem IfStatement.toStatement_injective : Function.Injective IfStatement.toStatement := by
  rintro ⟨_, _, _, _⟩ ⟨_, _, _, _⟩ h
  simpa [toStatement] using h

/-- Blocks that are the same statement are the same node. -/
theorem BlockStatement.toStatement_injective : Function.Injective BlockStatement.toStatement := by
  rintro ⟨_, _⟩ ⟨_, _⟩ h
  simpa [toStatement] using h

/-- Expression statements that are the same statement are the same node. -/
theorem ExpressionStatement.toStatement_injective :
    Function.Injective ExpressionStatement.toStatement := by
  rintro ⟨_, _⟩ ⟨_, _⟩ h
  simpa [toStatement] using h

/-- Returns that are the same statement are the same node. -/
theorem ReturnStatement.toStatement_injective : Function.Injective ReturnStatement.toStatement := by
  rintro ⟨_, _⟩ ⟨_, _⟩ h
  simpa [toStatement] using h

namespace Statement

/-- Builds a conditional statement from parts that may be absent. -/
def conditional (condition : Option Condition) (thenBranch elseBranch : Option Statement) :
    Except BuildError Statement :=
  (IfStatement.ofParts condition thenBranch elseBranch).map IfStatement.toStatement

/-- The conditional that a statement is, if it is one. -/
def asIf? : Statement → Option IfStatement
  | ifElse condition thenBranch elseBranch span =>
    some { condition, thenBranch, elseBranch, span }
  | _ => none

/-- The block that a statement is, if it is one. -/
def asBlock? : Statement → Option BlockStatement
  | block statements span => some { statements, span }
  | _ => none

/-- A statement is seen as a conditional when it is that conditional. -/
theorem asIf?_eq_some_iff {s : Statement} {node : IfStatement} :
    s.asIf? = some node ↔ s = node.toStatement := by
  cases node
  cases s <;> simp [asIf?, IfStatement.toStatement]

/-- A statement is seen as a block when it is that block. -/
theorem asBlock?_eq_some_iff {s : Statement} {node : BlockStatement} :
    s.asBlock? = some node ↔ s = node.toStatement := by
  cases node
  cases s <;> simp [asBlock?, BlockStatement.toStatement]

end Statement

end StatementTree
