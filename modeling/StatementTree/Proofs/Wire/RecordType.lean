import StatementTree.Proofs.Wire.Refusal
import StatementTree.Proofs.Wire.Settling

/-!
# The records of the wire format

Ten types of the wire format are read field by field. Each of them is described by its fields, in
the order of their declaration, and its decoder refuses a record as the description says. What
belongs to a call or to an operator is an object only. Members of an object under other keys are
never looked at.
-/

namespace StatementTree

/-- The types that are decoded field by field. A conditional is built from its parts after they
are read. -/
inductive RecordType where
  | span | ident | condition | expressionStatement | returnStatement | diagnostic
  | block | ifParts | callPayload | binaryPayload

namespace RecordType

/-- What a record of a type is read as. -/
abbrev Value : RecordType → Type
  | span => Span
  | ident => Ident
  | condition => Condition
  | expressionStatement => ExpressionStatement
  | returnStatement => ReturnStatement
  | diagnostic => Diagnostic
  | block => BlockStatement
  | ifParts => IfParts
  | callPayload | binaryPayload => Expr

/-- Decodes a record of a type. What belongs to a call or to an operator is decoded under the name
of its alternative. -/
def decode : (T : RecordType) → Json → Except DecodeError T.Value
  | span => Span.decode
  | ident => Ident.decode
  | condition => Condition.decode
  | expressionStatement => ExpressionStatement.decode
  | returnStatement => ReturnStatement.decode
  | diagnostic => Diagnostic.decode
  | block => BlockStatement.decode
  | ifParts => fun j => j.record 4 IfParts.fields
  | callPayload => fun payload => Expr.decode (.tagged "Call" payload)
  | binaryPayload => fun payload => Expr.decode (.tagged "Binary" payload)

/-- Whether a type is written as an object only. -/
def isPayload : RecordType → Bool
  | callPayload | binaryPayload => true
  | _ => false

/-- The place of a node, which has a default. -/
def spanField : RecordField := ⟨Span, "span", Span.decode, .defaulted {}⟩

/-- The fields of a type in the order of their declaration. -/
def fields : RecordType → List RecordField
  | span =>
    [⟨UInt64, "start", Json.asUInt64, .required⟩, ⟨UInt64, "end", Json.asUInt64, .required⟩]
  | ident =>
    [⟨String, "name", Json.asString, .required⟩, ⟨Span, "span", Span.decode, .required⟩]
  | condition => [⟨Expr, "expr", Expr.decode, .required⟩, spanField]
  | expressionStatement => [⟨Expr, "expr", Expr.decode, .required⟩, spanField]
  | returnStatement =>
    [⟨Option Expr, "value", Json.nullable Expr.decode, .omissible none⟩, spanField]
  | diagnostic =>
    [⟨Severity, "severity", Severity.decode, .required⟩,
      ⟨String, "message", Json.asString, .required⟩, ⟨Span, "span", Span.decode, .required⟩,
      ⟨Option String, "hint", Json.nullable Json.asString, .omissible none⟩]
  | block =>
    [⟨List Statement, "statements", Json.listOf Statement.decode, .defaulted []⟩, spanField]
  | ifParts =>
    [⟨Option Condition, "condition", Json.nullable Condition.decode, .defaulted none⟩,
      ⟨Option Statement, "then_branch", Json.nullable Statement.decode, .defaulted none⟩,
      ⟨Option Statement, "else_branch", Json.nullable Statement.decode, .defaulted none⟩,
      spanField]
  | callPayload =>
    [⟨Option Expr, "receiver", Json.nullable Expr.decode, .omissible none⟩,
      ⟨String, "method", Json.asString, .required⟩,
      ⟨List Expr, "args", Json.listOf Expr.decode, .required⟩]
  | binaryPayload =>
    [⟨BinaryOp, "op", BinaryOp.decode, .required⟩, ⟨Expr, "left", Expr.decode, .required⟩,
      ⟨Expr, "right", Expr.decode, .required⟩]

/-- The keys of a type. -/
def keys (T : RecordType) : List String := T.fields.map RecordField.key

/-- No type has two fields under one key. -/
theorem nodup_keys (T : RecordType) : T.keys.Nodup := by
  cases T <;> decide

/-- How a record of a type is read. -/
def reading : (T : RecordType) → Layout → Reading T.Value
  | span => fun l =>
    Span.mk <$> l.read 0 "start" .required Json.asUInt64 <*> l.read 1 "end" .required Json.asUInt64
  | ident => fun l =>
    Ident.mk <$> l.read 0 "name" .required Json.asString <*> l.read 1 "span" .required Span.decode
  | condition => fun l => Condition.mk <$> l.read 0 "expr" .required Expr.decode <*> l.span 1
  | expressionStatement => fun l =>
    ExpressionStatement.mk <$> l.read 0 "expr" .required Expr.decode <*> l.span 1
  | returnStatement => fun l =>
    ReturnStatement.mk <$> l.read 0 "value" (.omissible none) (Json.nullable Expr.decode)
      <*> l.span 1
  | diagnostic => fun l =>
    Diagnostic.mk <$> l.read 0 "severity" .required Severity.decode
      <*> l.read 1 "message" .required Json.asString
      <*> l.read 2 "span" .required Span.decode
      <*> l.read 3 "hint" (.omissible none) (Json.nullable Json.asString)
  | block => BlockStatement.fields
  | ifParts => IfParts.fields
  | callPayload => Expr.callFields
  | binaryPayload => Expr.binaryFields

/-- Reading a record finds the flaws of its fields in the order of their declaration. -/
theorem flaws_reading (T : RecordType) (l : Layout) :
    (T.reading l).flaws = RecordField.flawsFrom l 0 T.fields := by
  cases T <;>
    simp [reading, fields, RecordField.flawsFrom, Layout.flaws_read, Layout.span, spanField,
      BlockStatement.fields, IfParts.fields, Expr.callFields, Expr.binaryFields]

/-- The payload of a call is decoded as its record. -/
theorem decode_callPayload (payload : Json) :
    callPayload.decode payload = Expr.decodePayload .call payload :=
  (Expr.decode_eq _).trans (Json.choice_tagged ExprTag.call rfl _ _)

/-- The payload of a binary expression is decoded as its record. -/
theorem decode_binaryPayload (payload : Json) :
    binaryPayload.decode payload = Expr.decodePayload .binary payload :=
  (Expr.decode_eq _).trans (Json.choice_tagged ExprTag.binary rfl _ _)

/-- An object is concluded from its reading. -/
theorem decode_object (T : RecordType) (members : List (String × Json)) :
    T.decode (.object members) =
      (Layout.named members).conclude T.fields.length (T.reading (.named members)) := by
  cases T with
  | block => exact BlockStatement.decode_eq _
  | callPayload => exact decode_callPayload _
  | binaryPayload => exact decode_binaryPayload _
  | _ => rfl

/-- An array is concluded from its reading, unless it stands for a payload. -/
theorem decode_array (T : RecordType) (items : List Json) :
    T.decode (.array items) =
      if T.isPayload then .error .invalidType
      else (Layout.positional items).conclude T.fields.length (T.reading (.positional items)) := by
  cases T with
  | block => exact BlockStatement.decode_eq _
  | callPayload => exact decode_callPayload _
  | binaryPayload => exact decode_binaryPayload _
  | _ => rfl

/-- Only objects and arrays are records. -/
theorem decode_eq_invalidType (T : RecordType) {j : Json} (hl : j.layout? = none) :
    T.decode j = .error .invalidType := by
  cases j with
  | object members => simp [Json.layout?] at hl
  | array items => simp [Json.layout?] at hl
  | _ =>
    cases T with
    | block => exact BlockStatement.decode_eq _
    | callPayload => exact decode_callPayload _
    | binaryPayload => exact decode_binaryPayload _
    | _ => rfl

/-- The members of an object under keys of the type. -/
def recognised (T : RecordType) (members : List (String × Json)) : List (String × Json) :=
  members.filter fun m => m.1 ∈ T.keys

/-- A key of the type finds the same member after the others are dropped. -/
theorem lookup_recognised {T : RecordType} {key : String} (h : key ∈ T.keys)
    (members : List (String × Json)) :
    (T.recognised members).lookup key = members.lookup key := by
  induction members with
  | nil => rfl
  | cons m rest ih =>
    obtain ⟨name, value⟩ := m
    unfold recognised at ih ⊢
    by_cases hname : name ∈ T.keys
    · rw [List.filter_cons_of_pos (by simpa using hname), List.lookup_cons, List.lookup_cons, ih]
    · have hne : (key == name) = false := by
        rw [beq_eq_false_iff_ne]
        rintro rfl
        exact hname h
      rw [List.filter_cons_of_neg (by simpa using hname), ih, List.lookup_cons, hne]

/-- A field under a key of the type is read as the same after the other members are dropped. -/
theorem read_recognised {T : RecordType} {key : String} (h : key ∈ T.keys)
    (members : List (String × Json)) {α : Type} (index : Nat) (absence : Absence α)
    (decode : Json → Except DecodeError α) :
    (Layout.named (T.recognised members)).read index key absence decode =
      (Layout.named members).read index key absence decode := by
  have hslot : (Layout.named (T.recognised members)).slot? index key =
      (Layout.named members).slot? index key := lookup_recognised h members
  unfold Layout.read
  rw [hslot]
  cases (Layout.named members).slot? index key with
  | none => cases absence <;> rfl
  | some j => cases hj : decode j <;> simp [Layout.field, hj]

/-- Only the members under keys of the type are read. -/
theorem reading_recognised (T : RecordType) (members : List (String × Json)) :
    T.reading (.named (T.recognised members)) = T.reading (.named members) := by
  cases T <;>
    simp [reading, Layout.span, BlockStatement.fields, IfParts.fields, Expr.callFields,
      Expr.binaryFields, read_recognised, keys, fields, spanField]

/-- An object is decoded as the same without the members under other keys. -/
theorem decode_recognised (T : RecordType) (members : List (String × Json)) :
    T.decode (.object (T.recognised members)) = T.decode (.object members) := by
  rw [decode_object, decode_object, reading_recognised]
  cases T.reading (.named members) <;> rfl

/-- Which error a record is refused for. An object is refused for the unreadable field with the
least key, or else for the first field that it lacks; members under other keys do not matter. An
array is refused for its first unreadable element, or else for its length. A conditional is built
from its parts when they have been read. -/
theorem decode_eq_error_iff (T : RecordType) :
    (∀ members e,
      T.decode (.object members) = .error e ↔ RecordField.ObjectRefused T.fields members e) ∧
    (∀ items e, T.decode (.array items) = .error e ↔
      if T.isPayload then e = .invalidType else RecordField.ArrayRefused T.fields items e) ∧
    (∀ members, T.decode (.object members) =
      T.decode (.object (members.filter fun m => m.1 ∈ T.fields.map RecordField.key))) ∧
    ∀ j, IfStatement.decode j = (ifParts.decode j).bind IfParts.build := by
  refine ⟨fun members e => ?_, fun items e => ?_, fun members => ?_, IfStatement.decode_eq⟩
  · rw [decode_object]
    exact RecordField.conclude_named_iff T.nodup_keys (T.flaws_reading _)
  · rw [decode_array]
    cases T.isPayload with
    | true => simpa using eq_comm
    | false => simpa using RecordField.conclude_positional_iff (T.flaws_reading _)
  · exact (T.decode_recognised members).symm

end RecordType

end StatementTree
