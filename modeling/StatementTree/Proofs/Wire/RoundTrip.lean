import StatementTree.Proofs.Wire.Settling
import StatementTree.Proofs.Wire.WireType

/-!
# Decoding what was encoded

Encoding a value and decoding the answer gives the value back, exactly, as long as every
floating-point number inside it is finite. Infinity and NaN are written as null, and a value
that holds one of them is refused for a value of the wrong kind, however deep the number lies
and whatever else the value holds: no other error can come first.
-/

namespace StatementTree

/-- A span is always read back. -/
theorem Span.decode_encode (s : Span) : decode s.encode = .ok s := by
  refine (Reading.Settles.record ?_).trans (outcome_nil s)
  change Reading.Settles _ ([] ++ []) (Span.mk s.start s.stop)
  exact .seq (.map (.plain rfl (Json.asUInt64_ofUInt64 s.start)) _)
    (.plain rfl (Json.asUInt64_ofUInt64 s.stop))

/-- A name is always read back. -/
theorem Ident.decode_encode (i : Ident) : decode i.encode = .ok i := by
  refine (Reading.Settles.record ?_).trans (outcome_nil i)
  change Reading.Settles _ ([] ++ []) (Ident.mk i.name i.span)
  exact .seq (.map (.plain rfl (Json.asString_string i.name)) _)
    (.plain rfl (Span.decode_encode i.span))

/-- A literal is read back unless it is a number that is not finite. -/
theorem Literal.decode_encode (value : Literal) :
    decode value.encode = outcome value.floats value := by
  cases value with
  | string value => rfl
  | integer value =>
    change (Json.ofInt64 value).asInt64.map integer = outcome [] (integer value)
    rw [Json.asInt64_ofInt64, outcome_nil]
    rfl
  | float x =>
    change (Json.ofBinary64 x).asBinary64.map float = outcome [x] (float x)
    rw [Json.asBinary64_ofBinary64, outcome_map]
  | boolean value => rfl
  | null => rfl

/-- An operator is always read back. -/
theorem BinaryOp.decode_encode (op : BinaryOp) : decode op.encode = .ok op := by
  cases op <;> rfl

/-- A severity is always read back. -/
theorem Severity.decode_encode (s : Severity) : decode s.encode = .ok s := by
  cases s
  rfl

namespace Expr

/-- No expression is encoded as null. -/
theorem encode_ne_null (e : Expr) : e.encode ≠ .null := by
  cases e <;> simp [encode, encodeCall, Json.tagged]

/-- Arguments are encoded one by one. -/
theorem encodeAll_eq_map (args : List Expr) : encodeAll args = args.map encode := by
  induction args with
  | nil => rfl
  | cons e rest ih => rw [encodeAll, ih, List.map_cons]

/-- The numbers of arguments are those of each, in order. -/
theorem floatsAll_eq_flatMap (args : List Expr) : floatsAll args = args.flatMap floats := by
  induction args with
  | nil => rfl
  | cons e rest ih => rw [floatsAll, ih, List.flatMap_cons]

/-- The record of a call settles as its parts do. -/
theorem callFields_settles {receiver : Json} {receiver' : Option Expr} {method : String}
    {args : List Expr} {floats : List Binary64}
    (hreceiver : Json.nullable decode receiver = outcome floats receiver')
    (hargs : ∀ arg ∈ args, decode arg.encode = outcome arg.floats arg) :
    (callFields (.named [("receiver", receiver), ("method", .string method),
      ("args", .array (encodeAll args))])).Settles (floats ++ floatsAll args)
      (ofCall receiver' method args) := by
  have hlist := Json.listOf_map hargs
  rw [← encodeAll_eq_map, ← floatsAll_eq_flatMap] at hlist
  rw [← List.append_nil floats]
  exact .seq (.seq (.map (.read rfl hreceiver) _) (.plain rfl (Json.asString_string method)))
    (.read rfl hlist)

/-- An expression is read back unless it holds a number that is not finite. -/
theorem decode_encode (e : Expr) : decode e.encode = outcome e.floats e := by
  induction e with
  | var ident =>
    rw [decode_eq, encode, Json.choice_tagged .var rfl, decodePayload,
      Ident.decode_encode]
    exact (outcome_nil _).symm
  | constant value =>
    rw [decode_eq, encode, Json.choice_tagged .constant rfl, decodePayload,
      Literal.decode_encode, outcome_map]
    rfl
  | call method args ih =>
    rw [decode_eq, encode, encodeCall, Json.choice_tagged .call rfl, decodePayload,
      ofObject]
    have hreceiver : Json.nullable decode .null = outcome [] none := (outcome_nil none).symm
    exact (callFields_settles hreceiver ih).conclude
  | methodCall receiver method args ihreceiver ihargs =>
    have hreceiver : Json.nullable decode receiver.encode =
        outcome receiver.floats (some receiver) := by
      rw [Json.nullable_of_ne_null receiver.encode_ne_null, ihreceiver, outcome_map]
    rw [decode_eq, encode, encodeCall, Json.choice_tagged .call rfl, decodePayload,
      ofObject]
    exact (callFields_settles hreceiver ihargs).conclude
  | binary op left right ihleft ihright =>
    rw [decode_eq, encode, Json.choice_tagged .binary rfl, decodePayload, ofObject]
    exact Reading.Settles.conclude <| .seq
      (.seq (.map (.plain rfl op.decode_encode) _) (.read rfl ihleft)) (.read rfl ihright)
  | not operand ih =>
    rw [decode_eq, encode, Json.choice_tagged .not rfl, decodePayload, ih, outcome_map]
    rfl
  | paren inner ih =>
    rw [decode_eq, encode, Json.choice_tagged .paren rfl, decodePayload, ih, outcome_map]
    rfl

end Expr

/-- A condition is read back unless it holds a number that is not finite. -/
theorem Condition.decode_encode (c : Condition) : decode c.encode = outcome c.floats c := by
  refine Reading.Settles.record ?_
  rw [← List.append_nil c.floats]
  exact .seq (.map (.read rfl c.expr.decode_encode) _) (.plain rfl c.span.decode_encode)

/-- No condition is encoded as null. -/
theorem Condition.encode_ne_null (c : Condition) : c.encode ≠ .null := by
  simp [encode]

/-- An expression statement is read back unless it holds a number that is not finite. -/
theorem ExpressionStatement.decode_encode (node : ExpressionStatement) :
    decode node.encode = outcome node.toStatement.floats node := by
  refine Reading.Settles.record ?_
  rw [← List.append_nil node.toStatement.floats]
  exact .seq (.map (.read rfl node.expr.decode_encode) _) (.plain rfl node.span.decode_encode)

/-- A return is read back unless it holds a number that is not finite. -/
theorem ReturnStatement.decode_encode (node : ReturnStatement) :
    decode node.encode = outcome node.toStatement.floats node := by
  have hvalue : Json.nullable Expr.decode (.ofOption (node.value.map Expr.encode)) =
      outcome node.toStatement.floats node.value := by
    obtain ⟨value, span⟩ := node
    cases value with
    | none => exact (outcome_nil none).symm
    | some value =>
      change Json.nullable Expr.decode value.encode = outcome value.floats (some value)
      rw [Json.nullable_of_ne_null value.encode_ne_null, value.decode_encode, outcome_map]
  refine Reading.Settles.record ?_
  rw [← List.append_nil node.toStatement.floats]
  exact .seq (.map (.read rfl hvalue) _) (.plain rfl node.span.decode_encode)

/-- The empty statement decodes from its encoding. -/
theorem decodeEmptyStatement_encode : decodeEmptyStatement encodeEmptyStatement = .ok () := rfl

namespace Statement

/-- No statement is encoded as null. -/
theorem encode_ne_null (s : Statement) : s.encode ≠ .null := by
  cases s <;> simp [encode, Json.tagged]

/-- Statements are encoded one by one. -/
theorem encodeAll_eq_map (statements : List Statement) :
    encodeAll statements = statements.map encode := by
  induction statements with
  | nil => rfl
  | cons s rest ih => rw [encodeAll, ih, List.map_cons]

/-- The numbers of statements are those of each, in order. -/
theorem floatsAll_eq_flatMap (statements : List Statement) :
    floatsAll statements = statements.flatMap floats := by
  induction statements with
  | nil => rfl
  | cons s rest ih => rw [floatsAll, ih, List.flatMap_cons]

end Statement

/-- A conditional is read back when its branches are. -/
theorem IfStatement.decode_encode_of {node : IfStatement}
    (hthen : Statement.decode node.thenBranch.encode =
      outcome node.thenBranch.floats node.thenBranch)
    (helse : Statement.decode node.elseBranch.encode =
      outcome node.elseBranch.floats node.elseBranch) :
    decode node.encode = outcome node.toStatement.floats node := by
  have hcondition : Json.nullable Condition.decode node.condition.encode =
      outcome node.condition.floats (some node.condition) := by
    rw [Json.nullable_of_ne_null node.condition.encode_ne_null, Condition.decode_encode,
      outcome_map]
  have hbranch {s : Statement} (h : Statement.decode s.encode = outcome s.floats s) :
      Json.nullable Statement.decode s.encode = outcome s.floats (some s) := by
    rw [Json.nullable_of_ne_null s.encode_ne_null, h, outcome_map]
  have hparts : node.encode.record 4 IfParts.fields = outcome node.toStatement.floats
      ⟨some node.condition, some node.thenBranch, some node.elseBranch, node.span⟩ := by
    refine Reading.Settles.record ?_
    rw [← List.append_nil node.toStatement.floats]
    exact .seq (.seq (.seq (.map (.read rfl hcondition) _) (.read rfl (hbranch hthen)))
      (.read rfl (hbranch helse))) (.plain rfl node.span.decode_encode)
  rw [decode_eq, hparts]
  unfold outcome
  split <;> rfl

/-- A block is read back when its statements are. -/
theorem BlockStatement.decode_encode_of {node : BlockStatement}
    (h : ∀ s ∈ node.statements, Statement.decode s.encode = outcome s.floats s) :
    decode node.encode = outcome node.toStatement.floats node := by
  have hlist := Json.listOf_map h
  rw [← Statement.encodeAll_eq_map, ← Statement.floatsAll_eq_flatMap] at hlist
  rw [decode_eq]
  refine Reading.Settles.record ?_
  rw [← List.append_nil node.toStatement.floats]
  exact .seq (.map (.read rfl hlist) _) (.plain rfl node.span.decode_encode)

/-- A statement is read back unless it holds a number that is not finite. -/
theorem Statement.decode_encode (s : Statement) : decode s.encode = outcome s.floats s := by
  induction s with
  | ifElse condition thenBranch elseBranch span ihthen ihelse =>
    rw [decode_eq, encode, Json.choice_tagged .ifElse rfl, decodePayload]
    let node : IfStatement := ⟨condition, thenBranch, elseBranch, span⟩
    have hnode : IfStatement.decode node.encode = outcome node.toStatement.floats node :=
      IfStatement.decode_encode_of ihthen ihelse
    change (IfStatement.decode node.encode).map _ = _
    rw [hnode, outcome_map]
    rfl
  | block statements span ih =>
    rw [decode_eq, encode, Json.choice_tagged .block rfl, decodePayload]
    let node : BlockStatement := ⟨statements, span⟩
    have hnode : BlockStatement.decode node.encode = outcome node.toStatement.floats node :=
      BlockStatement.decode_encode_of ih
    change (BlockStatement.decode node.encode).map _ = _
    rw [hnode, outcome_map]
    rfl
  | expression expr span =>
    rw [decode_eq, encode, Json.choice_tagged .expression rfl, decodePayload,
      ExpressionStatement.decode_encode, outcome_map]
    rfl
  | returning value span =>
    rw [decode_eq, encode, Json.choice_tagged .returning rfl, decodePayload,
      ReturnStatement.decode_encode, outcome_map]
    rfl
  | empty =>
    rw [decode_eq, encode, Json.choice_tagged .empty rfl, decodePayload,
      decodeEmptyStatement_encode]
    exact (outcome_nil _).symm

/-- A conditional is read back unless it holds a number that is not finite. -/
theorem IfStatement.decode_encode (node : IfStatement) :
    decode node.encode = outcome node.toStatement.floats node :=
  decode_encode_of node.thenBranch.decode_encode node.elseBranch.decode_encode

/-- A block is read back unless it holds a number that is not finite. -/
theorem BlockStatement.decode_encode (node : BlockStatement) :
    decode node.encode = outcome node.toStatement.floats node :=
  decode_encode_of fun s _ => s.decode_encode

/-- A diagnostic is always read back. -/
theorem Diagnostic.decode_encode (d : Diagnostic) : decode d.encode = .ok d := by
  have hhint : Json.nullable Json.asString (.ofOption (d.hint.map Json.string)) = .ok d.hint := by
    cases d.hint <;> rfl
  refine (Reading.Settles.record ?_).trans (outcome_nil d)
  change Reading.Settles _ ([] ++ [] ++ [] ++ [])
    (Diagnostic.mk d.severity d.message d.span d.hint)
  exact .seq (.seq (.seq (.map (.plain rfl d.severity.decode_encode) _)
    (.plain rfl (Json.asString_string d.message))) (.plain rfl d.span.decode_encode))
    (.plain rfl hhint)

namespace WireType

/-- What comes of decoding the encoding of a value of any type. -/
theorem decode_encode (T : WireType) (v : T.Value) :
    T.decode (T.encode v) = outcome (T.floats v) v := by
  cases T with
  | span => exact (Span.decode_encode v).trans (outcome_nil v).symm
  | ident => exact (Ident.decode_encode v).trans (outcome_nil v).symm
  | literal => exact Literal.decode_encode v
  | binaryOp => exact (BinaryOp.decode_encode v).trans (outcome_nil v).symm
  | expr => exact Expr.decode_encode v
  | condition => exact Condition.decode_encode v
  | emptyStatement => exact decodeEmptyStatement_encode.trans (outcome_nil v).symm
  | expressionStatement => exact ExpressionStatement.decode_encode v
  | returnStatement => exact ReturnStatement.decode_encode v
  | blockStatement => exact BlockStatement.decode_encode v
  | ifStatement => exact IfStatement.decode_encode v
  | statement => exact Statement.decode_encode v
  | severity => exact (Severity.decode_encode v).trans (outcome_nil v).symm
  | diagnostic => exact (Diagnostic.decode_encode v).trans (outcome_nil v).symm

/-- Decoding takes encoding back on every value whose floating-point numbers are all finite, and
refuses the encoding of any other value for its kind. -/
theorem decode_encode_value (T : WireType) (v : T.Value) :
    (AllFinite (T.floats v) → T.decode (T.encode v) = .ok v) ∧
      ((∃ x ∈ T.floats v, x.isNaN = true ∨ x.isInfinite = true) →
        T.decode (T.encode v) = .error .invalidType) := by
  rw [decode_encode, outcome, ← not_allFinite_iff]
  exact ⟨fun hfinite => if_pos hfinite, fun hinfinite => if_neg hinfinite⟩

/-- A conditional with an empty then branch keeps the sign of a zero; with a NaN in place of the
zero it is refused. -/
theorem decode_encode_value_zero_and_nan :
    let conditional (x : Binary64) : Statement :=
      .ifElse ⟨.constant (.float x), ⟨7, 3⟩⟩ .empty (.block [.empty, .returning none])
    let zero := conditional ⟨0x8000000000000000⟩
    let nan := conditional ⟨0x7FF8000000000000⟩
    AllFinite (floats .statement zero) ∧
      decode .statement (encode .statement zero) = .ok zero ∧
      (∃ x ∈ floats .statement nan, x.isNaN = true ∨ x.isInfinite = true) ∧
      decode .statement (encode .statement nan) = .error .invalidType := by
  intro conditional zero nan
  have hzero : AllFinite (floats .statement zero) := by decide +kernel
  have hnan : ∃ x ∈ floats .statement nan, x.isNaN = true ∨ x.isInfinite = true :=
    ⟨⟨0x7FF8000000000000⟩, List.mem_singleton.mpr rfl, .inl (by decide +kernel)⟩
  exact ⟨hzero, (decode_encode_value .statement zero).1 hzero, hnan,
    (decode_encode_value .statement nan).2 hnan⟩

end WireType

end StatementTree
