import StatementTree.Proofs.Wire.SimpleAcceptance

/-!
# What the decoders of trees accept

A decoder answers a value exactly for the spellings of that value. For expressions and
statements this is an induction over the value and not over the JSON, since a spelling of a
node consists of spellings of its children.
-/

namespace StatementTree

open FieldSpelling Layout

namespace Json

variable {α : Type} {decode : Json → Except DecodeError α}

/-- What may be null is read as nothing exactly when it is null. -/
theorem nullable_eq_ok_none {j : Json} : nullable decode j = .ok none ↔ j = null := by
  cases j <;> simp [nullable, orNull, Except.map_eq_ok]

/-- Where null is no value, a value is read as it is otherwise. -/
theorem nullable_eq_ok_some {j : Json} {a : α} {e : DecodeError} (hnull : decode null = .error e) :
    nullable decode j = .ok (some a) ↔ decode j = .ok a := by
  cases j <;> simp [nullable, orNull, Except.map_eq_ok, hnull]

/-- A list is decoded from spellings of its items in order. -/
theorem listOf_eq_ok {spells : α → Json → Prop} {spellsAll : List α → List Json → Prop}
    (hnil : ∀ items, spellsAll [] items ↔ items = [])
    (hcons : ∀ a as items, spellsAll (a :: as) items ↔
      ∃ item rest, items = item :: rest ∧ spells a item ∧ spellsAll as rest)
    {as : List α} (h : ∀ a ∈ as, ∀ j, decode j = .ok a ↔ spells a j) {j : Json} :
    listOf decode j = .ok as ↔ ∃ items, j = array items ∧ spellsAll as items := by
  have hitems (items : List Json) :
      List.Forall₂ (fun item a => decode item = .ok a) items as ↔ spellsAll as items := by
    induction as generalizing items with
    | nil => rw [hnil, List.forall₂_nil_right_iff]
    | cons a rest ih =>
      have htail := ih fun b hb => h b (List.mem_cons_of_mem _ hb)
      rw [hcons, List.forall₂_cons_right_iff]
      simp only [h a (by simp), htail]
      constructor
      · rintro ⟨item, tail, hitem, hrest, rfl⟩
        exact ⟨item, tail, rfl, hitem, hrest⟩
      · rintro ⟨item, tail, rfl, hitem, hrest⟩
        exact ⟨item, tail, hitem, hrest, rfl⟩
  unfold listOf
  rw [asArray_eq_ok]
  simp only [hitems]

end Json

namespace Expr

/-- A record that must be an object is decoded from its spellings when its fields are. -/
theorem ofObject_eq_ok {fields : Layout → Reading Expr} {e : Expr}
    {spellings : List FieldSpelling} {j : Json}
    (h : ∀ l, fields l = .value e ↔ AllAt l 0 spellings) :
    ofObject fields j = .ok e ↔ Json.SpellsObject spellings j := by
  cases j with
  | object members =>
    rw [ofObject, conclude_eq_ok, h, allAt_named]
    simp [Layout.Fits, Json.SpellsObject]
  | _ => simp [ofObject, Json.SpellsObject]

/-- The kind of an expression on the wire. -/
def tag : Expr → ExprTag
  | var _ => .var
  | constant _ => .constant
  | call .. | methodCall .. => .call
  | binary .. => .binary
  | not _ => .not
  | paren _ => .paren

/-- A call is of its own kind, with a receiver or without. -/
theorem tag_ofCall (receiver : Option Expr) (method : String) (args : List Expr) :
    (ofCall receiver method args).tag = .call := by
  cases receiver <;> rfl

/-- When fields can be read as one kind of expression only, an object decodes to that kind. -/
theorem tag_of_ofObject {fields : Layout → Reading Expr} {tag : ExprTag} {e : Expr} {j : Json}
    (hfields : ∀ l, fields l = .value e → e.tag = tag) (h : ofObject fields j = .ok e) :
    e.tag = tag := by
  cases j with
  | object members => exact hfields _ (conclude_eq_ok.mp h).1
  | _ => simp [ofObject] at h

/-- What belongs to a kind of expression decodes to that kind. -/
theorem tag_of_decodePayload {tag : ExprTag} {payload : Json} {e : Expr}
    (h : decodePayload tag payload = .ok e) : tag = e.tag := by
  symm
  cases tag with
  | call =>
    refine tag_of_ofObject (fun l hl => ?_) h
    simp only [callFields, Reading.seq_eq_value, Reading.map_eq_value] at hl
    obtain ⟨_, args, ⟨_, method, ⟨receiver, -, rfl⟩, -, rfl⟩, -, rfl⟩ := hl
    exact tag_ofCall receiver method args
  | binary =>
    refine tag_of_ofObject (fun l hl => ?_) h
    simp only [binaryFields, Reading.seq_eq_value, Reading.map_eq_value] at hl
    obtain ⟨_, right, ⟨_, left, ⟨op, -, rfl⟩, -, rfl⟩, -, rfl⟩ := hl
    rfl
  | _ =>
    obtain ⟨_, -, rfl⟩ := Except.map_eq_ok.mp h
    rfl

/-- An expression is decoded from the spellings of what belongs to its kind. -/
theorem decode_eq_ok_of {e : Expr} {name : String} {payload : Json → Prop} {j : Json}
    (hname : ExprTag.names.lookup name = some e.tag)
    (hpayload : ∀ p, decodePayload e.tag p = .ok e ↔ payload p) :
    decode j = .ok e ↔ Json.SpellsTagged name payload j := by
  have hnames : (ExprTag.names.map Prod.snd).Nodup := by simp [ExprTag.names]
  rw [decode_eq]
  exact Json.choice_eq_ok hnames hname (fun _ _ => tag_of_decodePayload) hpayload

/-- Null is no expression. -/
theorem decode_null : decode .null = .error .invalidType := by
  rw [decode_eq]
  rfl

/-- Arguments decode from the spellings of each. -/
theorem listOf_eq_ok {args : List Expr} (h : ∀ arg ∈ args, ∀ j, decode j = .ok arg ↔ arg.Spells j)
    {j : Json} :
    Json.listOf decode j = .ok args ↔ ∃ items, j = .array items ∧ SpellsAll args items := by
  refine Json.listOf_eq_ok (fun items => ?_) (fun e rest items => ?_) h
  · simp [SpellsAll]
  · cases items <;> simp [SpellsAll]

/-- The parts of a call are read one by one. -/
theorem callFields_eq_value (receiver : Option Expr) (method : String) (args : List Expr)
    {l : Layout} :
    callFields l = .value (ofCall receiver method args) ↔
      l.read 0 "receiver" (.omissible none) (Json.nullable decode) = .value receiver ∧
        l.read 1 "method" .required Json.asString = .value method ∧
          l.read 2 "args" .required (Json.listOf decode) = .value args := by
  refine Reading.triple_eq_value fun r m as h => ?_
  cases r <;> cases receiver <;> simp_all [ofCall]

/-- An expression is decoded from its spellings. -/
theorem decode_eq_ok {e : Expr} {j : Json} : decode j = .ok e ↔ e.Spells j := by
  induction e generalizing j with
  | var ident =>
    refine decode_eq_ok_of rfl fun p => ?_
    simp [tag, decodePayload, Except.map_eq_ok, Ident.decode_eq_ok]
  | constant value =>
    refine decode_eq_ok_of rfl fun p => ?_
    simp [tag, decodePayload, Except.map_eq_ok, Literal.decode_eq_ok]
  | call method args ih =>
    refine decode_eq_ok_of rfl fun p => ?_
    refine ofObject_eq_ok fun l => (callFields_eq_value none method args).trans ?_
    simp only [AllAt, and_true]
    exact and_congr (read_omissible (fun _ => Json.nullable_eq_ok_none) (by simp)) <|
      and_congr (read_required fun _ => Json.asString_eq_ok)
        (read_required fun _ => listOf_eq_ok fun arg harg _ => ih arg harg)
  | methodCall receiver method args ihreceiver ihargs =>
    refine decode_eq_ok_of rfl fun p => ?_
    refine ofObject_eq_ok fun l => (callFields_eq_value (some receiver) method args).trans ?_
    simp only [AllAt, and_true]
    have hreceiver (j : Json) :
        Json.nullable decode j = .ok (some receiver) ↔ receiver.Spells j :=
      (Json.nullable_eq_ok_some decode_null).trans ihreceiver
    have hpresent : ¬ l.Leaves (.omissible none) (some receiver) := by
      cases l <;> simp [Layout.Leaves]
    exact and_congr (read_present hreceiver hpresent) <|
      and_congr (read_required fun _ => Json.asString_eq_ok)
        (read_required fun _ => listOf_eq_ok fun arg harg _ => ihargs arg harg)
  | binary op left right ihleft ihright =>
    refine decode_eq_ok_of rfl fun p => ?_
    refine ofObject_eq_ok fun l => (Reading.triple_eq_value fun _ _ _ h => binary.inj h).trans ?_
    simp only [AllAt, and_true]
    exact and_congr (read_required fun _ => BinaryOp.decode_eq_ok) <|
      and_congr (read_required fun _ => ihleft) (read_required fun _ => ihright)
  | not operand ih =>
    refine decode_eq_ok_of rfl fun p => ?_
    simp [tag, decodePayload, Except.map_eq_ok, ih]
  | paren inner ih =>
    refine decode_eq_ok_of rfl fun p => ?_
    simp [tag, decodePayload, Except.map_eq_ok, ih]

end Expr

/-- A condition is decoded from its spellings. -/
theorem Condition.decode_eq_ok {c : Condition} {j : Json} : decode j = .ok c ↔ c.Spells j := by
  refine Json.record_eq_ok_iff_spells rfl fun l => ?_
  have hmk : Function.Injective2 Condition.mk := fun _ _ _ _ h => Condition.mk.inj h
  simp only [AllAt, and_true]
  exact (Reading.pair_eq_value hmk).trans <|
    and_congr (read_required fun _ => Expr.decode_eq_ok) Layout.span_eq_value

/-- An expression statement is decoded from its spellings. -/
theorem ExpressionStatement.decode_eq_ok {node : ExpressionStatement} {j : Json} :
    decode j = .ok node ↔ node.Spells j := by
  refine Json.record_eq_ok_iff_spells rfl fun l => ?_
  have hmk : Function.Injective2 ExpressionStatement.mk :=
    fun _ _ _ _ h => ExpressionStatement.mk.inj h
  simp only [AllAt, and_true]
  exact (Reading.pair_eq_value hmk).trans <|
    and_congr (read_required fun _ => Expr.decode_eq_ok) Layout.span_eq_value

/-- A return is decoded from its spellings. -/
theorem ReturnStatement.decode_eq_ok {node : ReturnStatement} {j : Json} :
    decode j = .ok node ↔ node.Spells j := by
  have hmk : Function.Injective2 ReturnStatement.mk := fun _ _ _ _ h => ReturnStatement.mk.inj h
  obtain ⟨value, span⟩ := node
  cases value with
  | none =>
    refine Json.record_eq_ok_iff_spells rfl fun l => ?_
    simp only [AllAt, and_true]
    exact (Reading.pair_eq_value hmk).trans <|
      and_congr (read_omissible (fun _ => Json.nullable_eq_ok_none) (by simp))
        Layout.span_eq_value
  | some value =>
    refine Json.record_eq_ok_iff_spells rfl fun l => ?_
    simp only [AllAt, and_true]
    have hvalue (j : Json) :
        Json.nullable Expr.decode j = .ok (some value) ↔ value.Spells j :=
      (Json.nullable_eq_ok_some Expr.decode_null).trans Expr.decode_eq_ok
    have hpresent : ¬ l.Leaves (.omissible none) (some value) := by
      cases l <;> simp [Layout.Leaves]
    exact (Reading.pair_eq_value hmk).trans <|
      and_congr (read_present hvalue hpresent) Layout.span_eq_value

/-- The empty statement is decoded from its spellings. -/
theorem decodeEmptyStatement_eq_ok {j : Json} :
    decodeEmptyStatement j = .ok () ↔ SpellsEmptyStatement j :=
  Json.record_eq_ok_iff_spells rfl fun _ => by simp [AllAt, pure]

namespace Statement

/-- Null is no statement. -/
theorem decode_null : decode .null = .error .invalidType := by
  rw [decode_eq]
  rfl

/-- Statements decode from the spellings of each. -/
theorem listOf_eq_ok {statements : List Statement}
    (h : ∀ s ∈ statements, ∀ j, decode j = .ok s ↔ s.Spells j) {j : Json} :
    Json.listOf decode j = .ok statements ↔
      ∃ items, j = .array items ∧ SpellsAll statements items := by
  refine Json.listOf_eq_ok (fun items => ?_) (fun s rest items => ?_) h
  · simp [SpellsAll]
  · cases items <;> simp [SpellsAll]

end Statement

/-- A conditional is built when both required parts are there. -/
theorem IfParts.build_eq_ok {p : IfParts} {node : IfStatement} :
    p.build = .ok node ↔
      p.condition = some node.condition ∧ p.thenBranch = some node.thenBranch ∧
        p.elseBranch.getD .empty = node.elseBranch ∧ p.span = node.span := by
  obtain ⟨condition, thenBranch, elseBranch, span⟩ := p
  obtain ⟨condition', thenBranch', elseBranch', span'⟩ := node
  cases condition <;> cases thenBranch <;> simp [build, IfStatement.ofParts]

/-- Two steps in a row succeed when the second succeeds on the result of the first. -/
theorem Except.bind_eq_ok {ε α β : Type} {x : Except ε α} {f : α → Except ε β} {b : β} :
    x.bind f = .ok b ↔ ∃ a, x = .ok a ∧ f a = .ok b := by
  cases x <;> simp [Except.bind]

/-- An else branch may be read from a spelling of it or, if it is empty, from null or nothing. -/
theorem Layout.read_elseBranch {l : Layout} {s : Statement}
    (h : ∀ j, Statement.decode j = .ok s ↔ s.Spells j) :
    (∃ branch, l.read 2 "else_branch" (.defaulted none) (Json.nullable Statement.decode) =
        .value branch ∧ branch.getD .empty = s) ↔
      (defaulted "else_branch" (fun j => s.Spells j ∨ s = .empty ∧ j = .null) (s = .empty)).At
        l 2 := by
  have hread (j : Json) :
      (∃ branch, Json.nullable Statement.decode j = .ok branch ∧ branch.getD .empty = s) ↔
        s.Spells j ∨ s = .empty ∧ j = .null := by
    constructor
    · rintro ⟨branch, hbranch, rfl⟩
      cases branch with
      | none => exact .inr ⟨rfl, Json.nullable_eq_ok_none.mp hbranch⟩
      | some s =>
        have hs := (Json.nullable_eq_ok_some Statement.decode_null).mp hbranch
        exact .inl ((h j).mp hs)
    · rintro (hs | ⟨rfl, rfl⟩)
      · exact ⟨some s, (Json.nullable_eq_ok_some Statement.decode_null).mpr ((h j).mpr hs), rfl⟩
      · exact ⟨none, rfl, rfl⟩
  simp only [read_eq_value]
  unfold FieldSpelling.At FieldSpelling.defaulted
  cases l.slot? 2 "else_branch" with
  | some j => exact hread j
  | none => cases l <;> simp [Layout.Leaves, eq_comm]

/-- The parts of a conditional are read one by one. -/
theorem IfParts.fields_eq_value {l : Layout} {p : IfParts} :
    fields l = .value p ↔
      l.read 0 "condition" (.defaulted none) (Json.nullable Condition.decode) =
          .value p.condition ∧
        l.read 1 "then_branch" (.defaulted none) (Json.nullable Statement.decode) =
            .value p.thenBranch ∧
          l.read 2 "else_branch" (.defaulted none) (Json.nullable Statement.decode) =
              .value p.elseBranch ∧
            l.span 3 = .value p.span :=
  Reading.quadruple_eq_value fun _ _ _ _ h => IfParts.mk.inj h

/-- A conditional is built from what its fields are read as; an absent else branch is empty. -/
theorem IfParts.fields_build_eq_ok {l : Layout} {node : IfStatement} :
    (∃ parts, fields l = .value parts ∧ parts.build = .ok node) ↔
      l.read 0 "condition" (.defaulted none) (Json.nullable Condition.decode) =
          .value (some node.condition) ∧
        l.read 1 "then_branch" (.defaulted none) (Json.nullable Statement.decode) =
            .value (some node.thenBranch) ∧
          (∃ branch, l.read 2 "else_branch" (.defaulted none) (Json.nullable Statement.decode) =
              .value branch ∧ branch.getD .empty = node.elseBranch) ∧
            l.span 3 = .value node.span := by
  constructor
  · rintro ⟨⟨condition, thenBranch, elseBranch, span⟩, hfields, hbuild⟩
    obtain ⟨hc, ht, he, hs⟩ := fields_eq_value.mp hfields
    obtain ⟨rfl, rfl, helse, rfl⟩ := build_eq_ok.mp hbuild
    exact ⟨hc, ht, ⟨elseBranch, he, helse⟩, hs⟩
  · rintro ⟨hc, ht, ⟨branch, he, helse⟩, hs⟩
    refine ⟨⟨some node.condition, some node.thenBranch, branch, node.span⟩, ?_, ?_⟩
    · exact fields_eq_value.mpr ⟨hc, ht, he, hs⟩
    · exact build_eq_ok.mpr ⟨rfl, rfl, helse, rfl⟩

/-- A conditional is decoded from its spellings when its branches are. -/
theorem IfStatement.decode_eq_ok_of {node : IfStatement} {j : Json}
    (hthen : ∀ j, Statement.decode j = .ok node.thenBranch ↔ node.thenBranch.Spells j)
    (helse : ∀ j, Statement.decode j = .ok node.elseBranch ↔ node.elseBranch.Spells j) :
    decode j = .ok node ↔ node.Spells j := by
  have hcondition (j : Json) :
      Json.nullable Condition.decode j = .ok (some node.condition) ↔ node.condition.Spells j :=
    (Json.nullable_eq_ok_some rfl).trans Condition.decode_eq_ok
  have hbranch (j : Json) :
      Json.nullable Statement.decode j = .ok (some node.thenBranch) ↔ node.thenBranch.Spells j :=
    (Json.nullable_eq_ok_some Statement.decode_null).trans (hthen j)
  have hfields (l : Layout) :
      (∃ parts, IfParts.fields l = .value parts ∧ parts.build = .ok node) ↔
        AllAt l 0 [required "condition" node.condition.Spells,
          required "then_branch" node.thenBranch.Spells,
          defaulted "else_branch" (fun j => node.elseBranch.Spells j ∨
            node.elseBranch = .empty ∧ j = .null) (node.elseBranch = .empty),
          node.span.spelling] := by
    refine IfParts.fields_build_eq_ok.trans ?_
    simp only [AllAt, and_true]
    exact and_congr (read_present hcondition (by simp [Layout.Leaves])) <|
      and_congr (read_present hbranch (by simp [Layout.Leaves])) <|
        and_congr (read_elseBranch helse) Layout.span_eq_value
  rw [decode_eq, Except.bind_eq_ok]
  simp only [Json.record_eq_ok]
  refine Iff.trans ?_ Json.spellsRecord_iff.symm
  simp only [← hfields]
  constructor
  · rintro ⟨parts, ⟨l, hl, hparts, hfits⟩, hbuild⟩
    exact ⟨l, hl, ⟨parts, hparts, hbuild⟩, hfits⟩
  · rintro ⟨l, hl, ⟨parts, hparts, hbuild⟩, hfits⟩
    exact ⟨parts, ⟨l, hl, hparts, hfits⟩, hbuild⟩

/-- A block is decoded from its spellings when its statements are. -/
theorem BlockStatement.decode_eq_ok_of {node : BlockStatement} {j : Json}
    (h : ∀ s ∈ node.statements, ∀ j, Statement.decode j = .ok s ↔ s.Spells j) :
    decode j = .ok node ↔ node.Spells j := by
  rw [decode_eq]
  refine Json.record_eq_ok_iff_spells rfl fun l => ?_
  have hmk : Function.Injective2 BlockStatement.mk := fun _ _ _ _ h => BlockStatement.mk.inj h
  simp only [AllAt, and_true]
  exact (Reading.pair_eq_value hmk).trans <|
    and_congr (read_defaulted (fun _ => Statement.listOf_eq_ok h) eq_comm) Layout.span_eq_value

namespace Statement

/-- The kind of a statement on the wire. -/
def tag : Statement → StatementTag
  | ifElse .. => .ifElse
  | block .. => .block
  | expression .. => .expression
  | returning .. => .returning
  | empty => .empty

/-- What belongs to a kind of statement decodes to that kind. -/
theorem tag_of_decodePayload {tag : StatementTag} {payload : Json} {s : Statement}
    (h : decodePayload tag payload = .ok s) : tag = s.tag := by
  cases tag <;> obtain ⟨_, -, rfl⟩ := Except.map_eq_ok.mp h <;> rfl

/-- A statement is decoded from the spellings of what belongs to its kind. -/
theorem decode_eq_ok_of {s : Statement} {name : String} {payload : Json → Prop} {j : Json}
    (hname : StatementTag.names.lookup name = some s.tag)
    (hpayload : ∀ p, decodePayload s.tag p = .ok s ↔ payload p) :
    decode j = .ok s ↔ Json.SpellsTagged name payload j := by
  have hnames : (StatementTag.names.map Prod.snd).Nodup := by simp [StatementTag.names]
  rw [decode_eq]
  exact Json.choice_eq_ok hnames hname (fun _ _ => tag_of_decodePayload) hpayload

/-- A statement is decoded from its spellings. -/
theorem decode_eq_ok {s : Statement} {j : Json} : decode j = .ok s ↔ s.Spells j := by
  induction s generalizing j with
  | ifElse condition thenBranch elseBranch span ihthen ihelse =>
    refine decode_eq_ok_of rfl fun p => ?_
    let node : IfStatement := ⟨condition, thenBranch, elseBranch, span⟩
    have hnode : IfStatement.decode p = .ok node ↔ node.Spells p :=
      IfStatement.decode_eq_ok_of (fun _ => ihthen) (fun _ => ihelse)
    exact (Except.map_eq_ok_iff IfStatement.toStatement_injective).trans hnode
  | block statements span ih =>
    refine decode_eq_ok_of rfl fun p => ?_
    let node : BlockStatement := ⟨statements, span⟩
    have hnode : BlockStatement.decode p = .ok node ↔ node.Spells p :=
      BlockStatement.decode_eq_ok_of fun s hs _ => ih s hs
    exact (Except.map_eq_ok_iff BlockStatement.toStatement_injective).trans hnode
  | expression expr span =>
    refine decode_eq_ok_of rfl fun p => ?_
    let node : ExpressionStatement := ⟨expr, span⟩
    have hnode : ExpressionStatement.decode p = .ok node ↔ node.Spells p :=
      ExpressionStatement.decode_eq_ok
    exact (Except.map_eq_ok_iff ExpressionStatement.toStatement_injective).trans hnode
  | returning value span =>
    refine decode_eq_ok_of rfl fun p => ?_
    let node : ReturnStatement := ⟨value, span⟩
    have hnode : ReturnStatement.decode p = .ok node ↔ node.Spells p :=
      ReturnStatement.decode_eq_ok
    exact (Except.map_eq_ok_iff ReturnStatement.toStatement_injective).trans hnode
  | empty =>
    refine decode_eq_ok_of rfl fun p => ?_
    have hunit : Function.Injective fun _ : Unit => empty := fun _ _ _ => rfl
    exact (Except.map_eq_ok_iff hunit).trans decodeEmptyStatement_eq_ok

end Statement

/-- A conditional is decoded from its spellings. -/
theorem IfStatement.decode_eq_ok {node : IfStatement} {j : Json} :
    decode j = .ok node ↔ node.Spells j :=
  decode_eq_ok_of (fun _ => Statement.decode_eq_ok) (fun _ => Statement.decode_eq_ok)

/-- A block is decoded from its spellings. -/
theorem BlockStatement.decode_eq_ok {node : BlockStatement} {j : Json} :
    decode j = .ok node ↔ node.Spells j :=
  decode_eq_ok_of fun _ _ _ => Statement.decode_eq_ok

/-- A diagnostic is decoded from its spellings. -/
theorem Diagnostic.decode_eq_ok {d : Diagnostic} {j : Json} : decode j = .ok d ↔ d.Spells j := by
  refine Json.record_eq_ok_iff_spells rfl fun l => ?_
  simp only [AllAt, and_true]
  have hhint (j : Json) : Json.nullable Json.asString j = .ok d.hint ↔
      j = .ofOption (d.hint.map Json.string) := by
    cases d.hint with
    | none => exact Json.nullable_eq_ok_none
    | some hint => exact (Json.nullable_eq_ok_some rfl).trans Json.asString_eq_ok
  exact (Reading.quadruple_eq_value fun _ _ _ _ h => Diagnostic.mk.inj h).trans <|
    and_congr (read_required fun _ => Severity.decode_eq_ok) <|
      and_congr (read_required fun _ => Json.asString_eq_ok) <|
        and_congr (read_required fun _ => Span.decode_eq_ok)
          (read_omissible hhint eq_comm)

end StatementTree
