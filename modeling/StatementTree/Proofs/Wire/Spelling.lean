import StatementTree.Proofs.Wire.WireType

/-!
# The spellings of a value

A value has one encoding, and that encoding may be spelled in several ways. A record may be
written as the array of its fields, or hold members that nobody asks for; a field that has its
default may be left out, from an array only together with all later ones; what is absent may be
left out of an object instead of being written as null; a name without a payload may be a key
over null; and a floating-point number may be written as a whole number that converts to it.
Each part is free to be spelled in its own way. The predicates of this module follow the value
and never read JSON.
-/

namespace StatementTree

/-- How one field of a record with a certain value may be spelled. -/
structure FieldSpelling where
  /-- The key of the field. -/
  key : String
  /-- What may be written for the field. -/
  Spells : Json → Prop
  /-- Whether an object may leave the field out. -/
  Omissible : Prop
  /-- Whether an array may end before the field. -/
  Truncatable : Prop
  /-- What may be missing from an array may be missing from an object. -/
  omissible_of_truncatable : Truncatable → Omissible

namespace FieldSpelling

/-- A field that is always written. -/
def required (key : String) (spells : Json → Prop) : FieldSpelling :=
  ⟨key, spells, False, False, False.elim⟩

/-- A field that an object may leave out when there is nothing to write. -/
def nullable (key : String) (spells : Json → Prop) (isAbsent : Prop) : FieldSpelling :=
  ⟨key, spells, isAbsent, False, False.elim⟩

/-- A field that may be left out when it has its default. -/
def defaulted (key : String) (spells : Json → Prop) (isDefault : Prop) : FieldSpelling :=
  ⟨key, spells, isDefault, isDefault, id⟩

/-- Whether the members of an object spell the field. Members under other keys are free. -/
def SpelledBy (f : FieldSpelling) (members : List (String × Json)) : Prop :=
  match members.lookup f.key with
  | some j => f.Spells j
  | none => f.Omissible

end FieldSpelling

namespace Json

/-- An object that spells some fields. -/
def SpellsObject (fields : List FieldSpelling) : Json → Prop
  | object members => ∀ f ∈ fields, f.SpelledBy members
  | _ => False

/-- The elements of an array that spells some fields in order. -/
def SpellsElements : List FieldSpelling → List Json → Prop
  | [], items => items = []
  | f :: fields, [] => f.Truncatable ∧ SpellsElements fields []
  | f :: fields, item :: items => f.Spells item ∧ SpellsElements fields items

/-- A record that spells some fields, as an object or as an array. -/
def SpellsRecord (fields : List FieldSpelling) : Json → Prop
  | array items => SpellsElements fields items
  | j => SpellsObject fields j

/-- A choice of an alternative with a payload. -/
def SpellsTagged (name : String) (payload : Json → Prop) (j : Json) : Prop :=
  ∃ p, j = tagged name p ∧ payload p

/-- A choice of an alternative without a payload. -/
def SpellsBare (name : String) (j : Json) : Prop := j = string name ∨ j = tagged name null

end Json

open Json

/-- A span in its two forms. -/
def Span.Spells (s : Span) : Json → Prop :=
  SpellsRecord [.required "start" (· = .ofUInt64 s.start), .required "end" (· = .ofUInt64 s.stop)]

/-- The place of a node may be left out when the node has none. -/
def Span.spelling (s : Span) : FieldSpelling := .defaulted "span" s.Spells (s = {})

/-- A name always comes with its place. -/
def Ident.Spells (i : Ident) : Json → Prop :=
  SpellsRecord [.required "name" (· = .string i.name), .required "span" i.span.Spells]

/-- A floating-point number is itself or a whole number that converts to it. -/
def Binary64.Spells (x : Binary64) (j : Json) : Prop :=
  (∃ finite, j = .float ⟨x, finite⟩) ∨ ∃ n, j = .integer n ∧ Binary64.ofInt n.value = x

/-- A literal under the name of its kind. -/
def Literal.Spells : Literal → Json → Prop
  | string value => SpellsTagged "String" (· = .string value)
  | integer value => SpellsTagged "Integer" (· = .ofInt64 value)
  | float x => SpellsTagged "Float" x.Spells
  | boolean value => SpellsTagged "Boolean" (· = .bool value)
  | null => SpellsBare "Null"

/-- An operator is its name. -/
def BinaryOp.Spells (op : BinaryOp) : Json → Prop := SpellsBare op.name

namespace Expr

mutual

/-- An expression under the name of its kind. The parts of a call and of an operator must be
written as an object, and a call without a receiver may leave it out. -/
def Spells : Expr → Json → Prop
  | var ident => SpellsTagged "Variable" ident.Spells
  | constant value => SpellsTagged "Constant" value.Spells
  | call method args =>
    SpellsTagged "Call" <| SpellsObject
      [.nullable "receiver" (· = .null) True, .required "method" (· = .string method),
        .required "args" fun j => ∃ items, j = .array items ∧ SpellsAll args items]
  | methodCall receiver method args =>
    SpellsTagged "Call" <| SpellsObject
      [.required "receiver" receiver.Spells, .required "method" (· = .string method),
        .required "args" fun j => ∃ items, j = .array items ∧ SpellsAll args items]
  | binary op left right =>
    SpellsTagged "Binary" <| SpellsObject
      [.required "op" op.Spells, .required "left" left.Spells, .required "right" right.Spells]
  | not operand => SpellsTagged "Not" operand.Spells
  | paren inner => SpellsTagged "Paren" inner.Spells

/-- Expressions in order. -/
def SpellsAll : List Expr → List Json → Prop
  | [], items => items = []
  | _ :: _, [] => False
  | e :: rest, item :: items => e.Spells item ∧ SpellsAll rest items

end

end Expr

/-- A condition with its place. -/
def Condition.Spells (c : Condition) : Json → Prop :=
  SpellsRecord [.required "expr" c.expr.Spells, c.span.spelling]

/-- An expression statement with its place. -/
def ExpressionStatement.Spells (node : ExpressionStatement) : Json → Prop :=
  SpellsRecord [.required "expr" node.expr.Spells, node.span.spelling]

/-- A return with its place. Only an object may leave an absent value out. -/
def ReturnStatement.Spells (node : ReturnStatement) : Json → Prop :=
  match node.value with
  | none => SpellsRecord [.nullable "value" (· = .null) True, node.span.spelling]
  | some value => SpellsRecord [.required "value" value.Spells, node.span.spelling]

/-- The empty statement has no fields. -/
def SpellsEmptyStatement : Json → Prop := SpellsRecord []

namespace Statement

/-- The record of a conditional. An empty else branch may be null, or left out. -/
def SpellsIf (condition : Condition) (thenBranch elseBranch : Json → Prop) (elseIsEmpty : Prop)
    (span : Span) : Json → Prop :=
  SpellsRecord
    [.required "condition" condition.Spells, .required "then_branch" thenBranch,
      .defaulted "else_branch" (fun j => elseBranch j ∨ elseIsEmpty ∧ j = .null) elseIsEmpty,
      span.spelling]

/-- The record of a block. A block without statements may leave them out. -/
def SpellsBlock (statements : Json → Prop) (isEmpty : Prop) (span : Span) : Json → Prop :=
  SpellsRecord [.defaulted "statements" statements isEmpty, span.spelling]

mutual

/-- A statement under the name of its kind. -/
def Spells : Statement → Json → Prop
  | ifElse condition thenBranch elseBranch span =>
    SpellsTagged "If" <|
      SpellsIf condition thenBranch.Spells elseBranch.Spells (elseBranch = empty) span
  | block statements span =>
    SpellsTagged "Block" <|
      SpellsBlock (fun j => ∃ items, j = .array items ∧ SpellsAll statements items)
        (statements = []) span
  | expression expr span => SpellsTagged "Expression" (ExpressionStatement.Spells ⟨expr, span⟩)
  | returning value span => SpellsTagged "Return" (ReturnStatement.Spells ⟨value, span⟩)
  | empty => SpellsTagged "Empty" SpellsEmptyStatement

/-- Statements in order. -/
def SpellsAll : List Statement → List Json → Prop
  | [], items => items = []
  | _ :: _, [] => False
  | s :: rest, item :: items => s.Spells item ∧ SpellsAll rest items

end

end Statement

/-- A conditional on its own. -/
def IfStatement.Spells (node : IfStatement) : Json → Prop :=
  Statement.SpellsIf node.condition node.thenBranch.Spells node.elseBranch.Spells
    (node.elseBranch = .empty) node.span

/-- A block on its own. -/
def BlockStatement.Spells (node : BlockStatement) : Json → Prop :=
  Statement.SpellsBlock (fun j => ∃ items, j = .array items ∧
    Statement.SpellsAll node.statements items) (node.statements = []) node.span

/-- A severity is its name. -/
def Severity.Spells : Severity → Json → Prop
  | warning => SpellsBare "Warning"

/-- A diagnostic always comes with its place. Only an object may leave an absent hint out. -/
def Diagnostic.Spells (d : Diagnostic) : Json → Prop :=
  SpellsRecord
    [.required "severity" d.severity.Spells, .required "message" (· = .string d.message),
      .required "span" d.span.Spells,
      .nullable "hint" (· = .ofOption (d.hint.map Json.string)) (d.hint = none)]

/-- The spellings of a value of a type. -/
def WireType.Spells : (T : WireType) → T.Value → Json → Prop
  | span => Span.Spells
  | ident => Ident.Spells
  | literal => Literal.Spells
  | binaryOp => BinaryOp.Spells
  | expr => Expr.Spells
  | condition => Condition.Spells
  | emptyStatement => fun _ => SpellsEmptyStatement
  | expressionStatement => ExpressionStatement.Spells
  | returnStatement => ReturnStatement.Spells
  | blockStatement => BlockStatement.Spells
  | ifStatement => IfStatement.Spells
  | statement => Statement.Spells
  | severity => Severity.Spells
  | diagnostic => Diagnostic.Spells

end StatementTree
