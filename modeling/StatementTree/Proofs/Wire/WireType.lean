import StatementTree.Proofs.Wire.Floats
import StatementTree.Wire.Decode

/-!
# The types of the wire format

Fourteen types have a wire format. Naming them lets one statement speak about the encoding, the
decoding and the floating-point numbers of all of them.
-/

namespace StatementTree

/-- The types that can be encoded and decoded. -/
inductive WireType where
  | span | ident | literal | binaryOp | expr | condition
  | emptyStatement | expressionStatement | returnStatement | blockStatement | ifStatement
  | statement | severity | diagnostic

namespace WireType

/-- The values of a type. The empty statement holds nothing. -/
abbrev Value : WireType → Type
  | span => Span
  | ident => Ident
  | literal => Literal
  | binaryOp => BinaryOp
  | expr => Expr
  | condition => Condition
  | emptyStatement => Unit
  | expressionStatement => ExpressionStatement
  | returnStatement => ReturnStatement
  | blockStatement => BlockStatement
  | ifStatement => IfStatement
  | statement => Statement
  | severity => Severity
  | diagnostic => Diagnostic

/-- Encodes a value of a type. -/
def encode : (T : WireType) → T.Value → Json
  | span => Span.encode
  | ident => Ident.encode
  | literal => Literal.encode
  | binaryOp => BinaryOp.encode
  | expr => Expr.encode
  | condition => Condition.encode
  | emptyStatement => fun _ => encodeEmptyStatement
  | expressionStatement => ExpressionStatement.encode
  | returnStatement => ReturnStatement.encode
  | blockStatement => BlockStatement.encode
  | ifStatement => IfStatement.encode
  | statement => Statement.encode
  | severity => Severity.encode
  | diagnostic => Diagnostic.encode

/-- Decodes a value of a type. -/
def decode : (T : WireType) → Json → Except DecodeError T.Value
  | span => Span.decode
  | ident => Ident.decode
  | literal => Literal.decode
  | binaryOp => BinaryOp.decode
  | expr => Expr.decode
  | condition => Condition.decode
  | emptyStatement => decodeEmptyStatement
  | expressionStatement => ExpressionStatement.decode
  | returnStatement => ReturnStatement.decode
  | blockStatement => BlockStatement.decode
  | ifStatement => IfStatement.decode
  | statement => Statement.decode
  | severity => Severity.decode
  | diagnostic => Diagnostic.decode

/-- The floating-point numbers of a value of a type. -/
def floats : (T : WireType) → T.Value → List Binary64
  | literal => Literal.floats
  | expr => Expr.floats
  | condition => Condition.floats
  | expressionStatement => fun node => node.toStatement.floats
  | returnStatement => fun node => node.toStatement.floats
  | blockStatement => fun node => node.toStatement.floats
  | ifStatement => fun node => node.toStatement.floats
  | statement => Statement.floats
  | span | ident | binaryOp | emptyStatement | severity | diagnostic => fun _ => []

end WireType

end StatementTree
