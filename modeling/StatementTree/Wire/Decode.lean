import StatementTree.Wire.Encode
import StatementTree.Wire.Record

/-!
# Decoding

A value is decoded from every spelling of its encoding: a record from an object or an array, a
choice from a name or an object, with spans and some other fields left out. Which fields may be
left out is part of each type, as is the order in which an array holds them. A conditional is
built from its parts after all of them are read, so a flawed part is always reported before an
absent one.
-/

namespace StatementTree

/-- Decodes a record with the given number of fields. -/
def Json.record {α : Type} (j : Json) (width : Nat) (fields : Layout → Reading α) :
    Except DecodeError α :=
  match j.layout? with
  | some l => l.conclude width (fields l)
  | none => .error .invalidType

/-- Decodes a span. -/
def Span.decode (j : Json) : Except DecodeError Span :=
  j.record 2 fun l => Span.mk
    <$> l.read 0 "start" .required Json.asUInt64
    <*> l.read 1 "end" .required Json.asUInt64

/-- The span of a node may always be left out; the node then has no place. -/
def Layout.span (l : Layout) (index : Nat) : Reading Span :=
  l.read index "span" (.defaulted {}) Span.decode

/-- Decodes a name. Its place must be given. -/
def Ident.decode (j : Json) : Except DecodeError Ident :=
  j.record 2 fun l => Ident.mk
    <$> l.read 0 "name" .required Json.asString
    <*> l.read 1 "span" .required Span.decode

/-- The kinds of literals. -/
inductive LiteralTag where
  | string | integer | float | boolean | null

/-- The kinds of literals, by their names. -/
def LiteralTag.names : List (String × LiteralTag) :=
  [("String", string), ("Integer", integer), ("Float", float), ("Boolean", boolean),
    ("Null", null)]

/-- Decodes a literal. -/
def Literal.decode (j : Json) : Except DecodeError Literal :=
  match j.variant LiteralTag.names with
  | .error e => .error e
  | .ok (.null, payload) => (Json.noPayload payload).map fun _ => null
  | .ok (_, none) => .error .invalidType
  | .ok (.string, some payload) => payload.asString.map string
  | .ok (.integer, some payload) => payload.asInt64.map integer
  | .ok (.float, some payload) => payload.asBinary64.map float
  | .ok (.boolean, some payload) => payload.asBool.map boolean

/-- All operators. -/
def BinaryOp.all : List BinaryOp := [or, and, eq, ne, lt, gt, le, ge, add, sub, mul, div, mod]

/-- Decodes an operator. -/
def BinaryOp.decode (j : Json) : Except DecodeError BinaryOp :=
  j.bareVariant (BinaryOp.all.map fun op => (op.name, op))

/-- The kinds of expressions that the wire format tells apart. -/
inductive ExprTag where
  | var | constant | call | binary | not | paren

/-- The kinds of expressions, by their names. -/
def ExprTag.names : List (String × ExprTag) :=
  [("Variable", var), ("Constant", constant), ("Call", call), ("Binary", binary),
    ("Not", not), ("Paren", paren)]

namespace Expr

/-- A call with a receiver or without one. -/
def ofCall : Option Expr → String → List Expr → Expr
  | none, method, args => call method args
  | some receiver, method, args => methodCall receiver method args

/-- Decodes an expression. What belongs to a call or an operator is an object only. -/
def decode (j : Json) : Except DecodeError Expr :=
  match _ : j.variant ExprTag.names with
  | .error e => .error e
  | .ok (_, none) => .error .invalidType
  | .ok (.var, some payload) => (Ident.decode payload).map var
  | .ok (.constant, some payload) => (Literal.decode payload).map constant
  | .ok (.call, some (.object members)) =>
    let l := Layout.named members
    l.conclude 3 <| ofCall
      <$> l.field "receiver" (.omissible none) ((l.slot? 0 "receiver").attach.map
        fun ⟨receiver, _⟩ => receiver.orNull (decode receiver))
      <*> l.read 1 "method" .required Json.asString
      <*> l.field "args" .required ((l.slot? 2 "args").attach.map
        fun ⟨args, _⟩ => args.asArray fun arg _ => decode arg)
  | .ok (.binary, some (.object members)) =>
    let l := Layout.named members
    l.conclude 3 <| binary
      <$> l.read 0 "op" .required BinaryOp.decode
      <*> l.field "left" .required ((l.slot? 1 "left").attach.map
        fun ⟨left, _⟩ => decode left)
      <*> l.field "right" .required ((l.slot? 2 "right").attach.map
        fun ⟨right, _⟩ => decode right)
  | .ok (.call, some _) => .error .invalidType
  | .ok (.binary, some _) => .error .invalidType
  | .ok (.not, some operand) => (decode operand).map not
  | .ok (.paren, some inner) => (decode inner).map paren
termination_by sizeOf j
decreasing_by
  all_goals
    have hpayload := Json.sizeOf_payload_lt ‹j.variant _ = _›
  case _ => exact Nat.lt_trans (Layout.sizeOf_member_lt ‹_ = some receiver›) hpayload
  case _ =>
    have := Layout.sizeOf_member_lt ‹_ = some args›
    omega
  case _ => exact Nat.lt_trans (Layout.sizeOf_member_lt ‹_ = some left›) hpayload
  case _ => exact Nat.lt_trans (Layout.sizeOf_member_lt ‹_ = some right›) hpayload
  case _ => exact hpayload
  case _ => exact hpayload

end Expr

/-- Decodes a condition. -/
def Condition.decode (j : Json) : Except DecodeError Condition :=
  j.record 2 fun l => Condition.mk <$> l.read 0 "expr" .required Expr.decode <*> l.span 1

/-- Decodes an expression statement. -/
def ExpressionStatement.decode (j : Json) : Except DecodeError ExpressionStatement :=
  j.record 2 fun l => ExpressionStatement.mk
    <$> l.read 0 "expr" .required Expr.decode
    <*> l.span 1

/-- Decodes a return. -/
def ReturnStatement.decode (j : Json) : Except DecodeError ReturnStatement :=
  j.record 2 fun l => ReturnStatement.mk
    <$> l.read 0 "value" (.omissible none) (fun value => value.orNull (Expr.decode value))
    <*> l.span 1

/-- Decodes the empty statement, a record without fields. -/
def decodeEmptyStatement (j : Json) : Except DecodeError Unit := j.record 0 fun _ => pure ()

/-- What a conditional is built from. -/
structure IfParts where
  /-- The condition, if there is one. -/
  condition : Option Condition
  /-- The then branch, if there is one. -/
  thenBranch : Option Statement
  /-- The else branch, if there is one. -/
  elseBranch : Option Statement
  /-- The place of the conditional. -/
  span : Span

/-- Builds a conditional from the parts that were read. -/
def IfParts.build (p : IfParts) : Except DecodeError IfStatement :=
  match IfStatement.ofParts p.condition p.thenBranch p.elseBranch with
  | .ok node => .ok { node with span := p.span }
  | .error e => .error (.invalidArgument e)

/-- The kinds of statements. -/
inductive StatementTag where
  | ifElse | block | expression | returning | empty

/-- The kinds of statements, by their names. -/
def StatementTag.names : List (String × StatementTag) :=
  [("If", ifElse), ("Block", block), ("Expression", expression), ("Return", returning),
    ("Empty", empty)]

mutual

/-- Decodes a statement. -/
def Statement.decode (j : Json) : Except DecodeError Statement :=
  match _ : j.variant StatementTag.names with
  | .error e => .error e
  | .ok (_, none) => .error .invalidType
  | .ok (.ifElse, some payload) => (IfStatement.decode payload).map IfStatement.toStatement
  | .ok (.block, some payload) => (BlockStatement.decode payload).map BlockStatement.toStatement
  | .ok (.expression, some payload) =>
    (ExpressionStatement.decode payload).map ExpressionStatement.toStatement
  | .ok (.returning, some payload) =>
    (ReturnStatement.decode payload).map ReturnStatement.toStatement
  | .ok (.empty, some payload) => (decodeEmptyStatement payload).map fun _ => .empty
termination_by sizeOf j
decreasing_by all_goals exact Json.sizeOf_payload_lt ‹j.variant _ = _›

/-- Decodes a conditional. Its parts may be left out or null; which of them it cannot do
without is settled when it is built. -/
def IfStatement.decode (j : Json) : Except DecodeError IfStatement :=
  match _ : j.layout? with
  | none => .error .invalidType
  | some l => do
    let parts ← l.conclude 4 <| IfParts.mk
      <$> l.read 0 "condition" (.defaulted none) (fun c => c.orNull (Condition.decode c))
      <*> l.field "then_branch" (.defaulted none) ((l.slot? 1 "then_branch").attach.map
        fun ⟨branch, _⟩ => branch.orNull (Statement.decode branch))
      <*> l.field "else_branch" (.defaulted none) ((l.slot? 2 "else_branch").attach.map
        fun ⟨branch, _⟩ => branch.orNull (Statement.decode branch))
      <*> l.span 3
    parts.build
termination_by sizeOf j
decreasing_by
  all_goals exact Layout.sizeOf_slot_lt ‹j.layout? = _› ‹_ = some branch›

/-- Decodes a block. -/
def BlockStatement.decode (j : Json) : Except DecodeError BlockStatement :=
  match _ : j.layout? with
  | none => .error .invalidType
  | some l => l.conclude 2 <| BlockStatement.mk
      <$> l.field "statements" (.defaulted []) ((l.slot? 0 "statements").attach.map
        fun ⟨statements, _⟩ => statements.asArray fun s _ => Statement.decode s)
      <*> l.span 1
termination_by sizeOf j
decreasing_by
  have := Layout.sizeOf_slot_lt ‹j.layout? = _› ‹_ = some statements›
  omega

end

/-- Decodes a severity. -/
def Severity.decode (j : Json) : Except DecodeError Severity :=
  j.bareVariant [("Warning", .warning)]

/-- Decodes a diagnostic. Its place must be given. -/
def Diagnostic.decode (j : Json) : Except DecodeError Diagnostic :=
  j.record 4 fun l => Diagnostic.mk
    <$> l.read 0 "severity" .required Severity.decode
    <*> l.read 1 "message" .required Json.asString
    <*> l.read 2 "span" .required Span.decode
    <*> l.read 3 "hint" (.omissible none) (fun hint => hint.orNull hint.asString)

end StatementTree
