import StatementTree.Wire.Decode

/-!
# The recursive decoders, one level at a time

Expressions, statements, conditionals and blocks are decoded by recursion on the size of the
JSON value, with a proof of descent at every recursive call. The equations of this module say
the same without these proofs: each opens one level and reads the parts by the decoders
themselves, so that all later arguments are about plain readings of records and choices.
-/

namespace StatementTree

/-- A field may be read with or without a proof of where it was found. -/
theorem Layout.field_attach {α : Type} (l : Layout) (index : Nat) (key : String)
    (absence : Absence α) (decode : Json → Except DecodeError α) :
    l.field key absence ((l.slot? index key).attach.map fun ⟨j, _⟩ => decode j) =
      l.read index key absence decode := by
  unfold read
  exact congrArg _ (Option.attach_map_val _ decode)

/-- Reads a list of values by one decoder. -/
def Json.listOf {α : Type} (decode : Json → Except DecodeError α) (j : Json) :
    Except DecodeError (List α) :=
  j.asArray fun item _ => decode item

/-- Reads a value by a decoder, or nothing from null. -/
def Json.nullable {α : Type} (decode : Json → Except DecodeError α) (j : Json) :
    Except DecodeError (Option α) :=
  j.orNull (decode j)

/-- Reads the alternative that a choice names, each of which needs a payload. -/
def Json.choice {τ α : Type} (names : List (String × τ))
    (decode : τ → Json → Except DecodeError α) (j : Json) : Except DecodeError α :=
  match j.variant names with
  | .error e => .error e
  | .ok (_, none) => .error .invalidType
  | .ok (tag, some payload) => decode tag payload

namespace Expr

/-- The fields of a call. -/
def callFields (l : Layout) : Reading Expr :=
  ofCall
    <$> l.read 0 "receiver" (.omissible none) (Json.nullable decode)
    <*> l.read 1 "method" .required Json.asString
    <*> l.read 2 "args" .required (Json.listOf decode)

/-- The fields of an operator with its operands. -/
def binaryFields (l : Layout) : Reading Expr :=
  binary
    <$> l.read 0 "op" .required BinaryOp.decode
    <*> l.read 1 "left" .required decode
    <*> l.read 2 "right" .required decode

/-- Reads a record that must be written as an object. -/
def ofObject (fields : Layout → Reading Expr) : Json → Except DecodeError Expr
  | .object members => (Layout.named members).conclude 3 (fields (.named members))
  | _ => .error .invalidType

/-- Decodes what belongs to each kind of expression. -/
def decodePayload : ExprTag → Json → Except DecodeError Expr
  | .var, payload => (Ident.decode payload).map var
  | .constant, payload => (Literal.decode payload).map constant
  | .call, payload => ofObject callFields payload
  | .binary, payload => ofObject binaryFields payload
  | .not, payload => (decode payload).map not
  | .paren, payload => (decode payload).map paren

/-- An expression is a choice between its kinds. -/
theorem decode_eq (j : Json) : decode j = j.choice ExprTag.names decodePayload := by
  rw [decode]
  unfold Json.choice
  split
  case h_1 h => rw [h]
  case h_2 h => rw [h]
  case h_3 h => rw [h]; rfl
  case h_4 h => rw [h]; rfl
  case h_5 h =>
    rw [h]
    simp only [decodePayload, ofObject, callFields]
    rw [← Layout.field_attach _ 0, ← Layout.field_attach _ 2]
    rfl
  case h_6 h =>
    rw [h]
    simp only [decodePayload, ofObject, binaryFields]
    rw [← Layout.field_attach _ 1, ← Layout.field_attach _ 2]
  case h_7 payload hobject h =>
    rw [h]
    cases payload <;> simp_all [decodePayload, ofObject]
  case h_8 payload hobject h =>
    rw [h]
    cases payload <;> simp_all [decodePayload, ofObject]
  case h_9 h => rw [h]; rfl
  case h_10 h => rw [h]; rfl

end Expr

/-- The fields of a conditional. -/
def IfParts.fields (l : Layout) : Reading IfParts :=
  IfParts.mk
    <$> l.read 0 "condition" (.defaulted none) (Json.nullable Condition.decode)
    <*> l.read 1 "then_branch" (.defaulted none) (Json.nullable Statement.decode)
    <*> l.read 2 "else_branch" (.defaulted none) (Json.nullable Statement.decode)
    <*> l.span 3

/-- A conditional is built from a record of parts. -/
theorem IfStatement.decode_eq (j : Json) :
    decode j = (j.record 4 IfParts.fields).bind IfParts.build := by
  rw [decode]
  unfold Json.record
  split
  case h_1 h => rw [h]; rfl
  case h_2 l h =>
    rw [h]
    simp only [IfParts.fields]
    rw [← Layout.field_attach _ 1, ← Layout.field_attach _ 2]
    rfl

/-- The fields of a block. -/
def BlockStatement.fields (l : Layout) : Reading BlockStatement :=
  BlockStatement.mk
    <$> l.read 0 "statements" (.defaulted []) (Json.listOf Statement.decode)
    <*> l.span 1

/-- A block is a record. -/
theorem BlockStatement.decode_eq (j : Json) : decode j = j.record 2 BlockStatement.fields := by
  rw [decode]
  unfold Json.record
  split
  case h_1 h => rw [h]
  case h_2 l h =>
    rw [h]
    simp only [fields]
    rw [← Layout.field_attach _ 0]
    rfl

namespace Statement

/-- Decodes what belongs to each kind of statement. -/
def decodePayload : StatementTag → Json → Except DecodeError Statement
  | .ifElse, payload => (IfStatement.decode payload).map IfStatement.toStatement
  | .block, payload => (BlockStatement.decode payload).map BlockStatement.toStatement
  | .expression, payload =>
    (ExpressionStatement.decode payload).map ExpressionStatement.toStatement
  | .returning, payload => (ReturnStatement.decode payload).map ReturnStatement.toStatement
  | .empty, payload => (decodeEmptyStatement payload).map fun _ => empty

/-- A statement is a choice between its kinds. -/
theorem decode_eq (j : Json) : decode j = j.choice StatementTag.names decodePayload := by
  rw [decode]
  unfold Json.choice
  split <;> rename_i h <;> rw [h] <;> rfl

end Statement

end StatementTree
