import StatementTree.Diagnostic
import StatementTree.Wire.Variant

/-!
# Encoding

Every node is written as a record with all its fields, under the names of the wire format, and
every choice by its name. Whatever is absent is written as null.
-/

namespace StatementTree

/-- A span is its two offsets. -/
def Span.encode (s : Span) : Json :=
  .object [("start", .ofUInt64 s.start), ("end", .ofUInt64 s.stop)]

/-- A name with its place. -/
def Ident.encode (i : Ident) : Json :=
  .object [("name", .string i.name), ("span", i.span.encode)]

/-- A literal is written under the name of its kind. -/
def Literal.encode : Literal → Json
  | string value => .tagged "String" (.string value)
  | integer value => .tagged "Integer" (.ofInt64 value)
  | float value => .tagged "Float" (.ofBinary64 value)
  | boolean value => .tagged "Boolean" (.bool value)
  | null => .string "Null"

/-- The name of an operator in the wire format. -/
def BinaryOp.name : BinaryOp → String
  | or => "Or"
  | and => "And"
  | eq => "Eq"
  | ne => "Ne"
  | lt => "Lt"
  | gt => "Gt"
  | le => "Le"
  | ge => "Ge"
  | add => "Add"
  | sub => "Sub"
  | mul => "Mul"
  | div => "Div"
  | mod => "Mod"

/-- An operator is its name. -/
def BinaryOp.encode (op : BinaryOp) : Json := .string op.name

namespace Expr

/-- A call with or without a receiver, its parts already written. -/
def encodeCall (receiver : Json) (method : String) (args : List Json) : Json :=
  .tagged "Call"
    (.object [("receiver", receiver), ("method", .string method), ("args", .array args)])

mutual

/-- An expression is written under the name of its kind; both kinds of calls share one. -/
def encode : Expr → Json
  | var ident => .tagged "Variable" ident.encode
  | constant value => .tagged "Constant" value.encode
  | call method args => encodeCall .null method (encodeAll args)
  | methodCall receiver method args => encodeCall receiver.encode method (encodeAll args)
  | binary op left right =>
    .tagged "Binary"
      (.object [("op", op.encode), ("left", left.encode), ("right", right.encode)])
  | not operand => .tagged "Not" operand.encode
  | paren inner => .tagged "Paren" inner.encode

/-- Expressions in order. -/
def encodeAll : List Expr → List Json
  | [] => []
  | e :: rest => e.encode :: encodeAll rest

end

end Expr

/-- A condition is its expression and its place. -/
def Condition.encode (c : Condition) : Json :=
  .object [("expr", c.expr.encode), ("span", c.span.encode)]

/-- An expression statement is its expression and its place. -/
def ExpressionStatement.encode (node : ExpressionStatement) : Json :=
  .object [("expr", node.expr.encode), ("span", node.span.encode)]

/-- A return is its value and its place. -/
def ReturnStatement.encode (node : ReturnStatement) : Json :=
  .object [("value", .ofOption (node.value.map Expr.encode)), ("span", node.span.encode)]

/-- The empty statement holds nothing. -/
def encodeEmptyStatement : Json := .object []

/-- A conditional, its branches already written. -/
def encodeIf (condition : Condition) (thenBranch elseBranch : Json) (span : Span) : Json :=
  .object [("condition", condition.encode), ("then_branch", thenBranch),
    ("else_branch", elseBranch), ("span", span.encode)]

/-- A block, its statements already written. -/
def encodeBlock (statements : List Json) (span : Span) : Json :=
  .object [("statements", .array statements), ("span", span.encode)]

namespace Statement

mutual

/-- A statement is written under the name of its kind. -/
def encode : Statement → Json
  | ifElse condition thenBranch elseBranch span =>
    .tagged "If" (encodeIf condition thenBranch.encode elseBranch.encode span)
  | block statements span => .tagged "Block" (encodeBlock (encodeAll statements) span)
  | expression expr span => .tagged "Expression" (ExpressionStatement.encode ⟨expr, span⟩)
  | returning value span => .tagged "Return" (ReturnStatement.encode ⟨value, span⟩)
  | empty => .tagged "Empty" encodeEmptyStatement

/-- Statements in order. -/
def encodeAll : List Statement → List Json
  | [] => []
  | s :: rest => s.encode :: encodeAll rest

end

end Statement

/-- A conditional on its own is written without the name of its kind. -/
def IfStatement.encode (node : IfStatement) : Json :=
  encodeIf node.condition node.thenBranch.encode node.elseBranch.encode node.span

/-- A block on its own is written without the name of its kind. -/
def BlockStatement.encode (node : BlockStatement) : Json :=
  encodeBlock (Statement.encodeAll node.statements) node.span

/-- A severity is its name. -/
def Severity.encode : Severity → Json
  | warning => .string "Warning"

/-- A diagnostic with all its fields. -/
def Diagnostic.encode (d : Diagnostic) : Json :=
  .object [("severity", d.severity.encode), ("message", .string d.message),
    ("span", d.span.encode), ("hint", .ofOption (d.hint.map Json.string))]

end StatementTree
