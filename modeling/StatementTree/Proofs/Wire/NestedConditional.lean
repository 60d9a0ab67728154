import Mathlib.Logic.Relation
import StatementTree.Proofs.Wire.Propagation
import StatementTree.Proofs.Wire.RoundTrip

/-!
# Conditionals inside statements

A statement is refused for the first statement in it that cannot be read, and for the same error.
Followed inwards this leads to a conditional that lacks a part although all that it holds can be
read, whenever a statement is refused for a lacking part at all. No conditional around that one has
a say, whatever it lacks itself.
-/

namespace StatementTree

open RecordField (FailsFirst)

/-- A branch of a conditional. -/
def IfStatement.branchField (key : String) : RecordField :=
  ⟨Option Statement, key, Json.nullable Statement.decode, .defaulted none⟩

/-- The statements of a block. -/
def BlockStatement.statementsField : RecordField :=
  ⟨List Statement, "statements", Json.listOf Statement.decode, .defaulted []⟩

namespace Statement

open IfStatement (partFields branchField Incomplete Answers)
open BlockStatement (statementsField)

/-- Whether `inner` is the statement directly inside `outer` that comes first among all that cannot
be read there, in the order in which `outer` is decoded. -/
inductive FirstUnreadable : Json → Json → Prop
  /-- A branch of a conditional. -/
  | branch {payload inner : Json} {l : Layout} {key : String} {e : DecodeError} :
    payload.layout? = some l → key = "then_branch" ∨ key = "else_branch" →
    FailsFirst partFields (branchField key) inner e l →
    FirstUnreadable (.tagged "If" payload) inner
  /-- A statement of a block, the statements before it being readable. -/
  | child {payload inner : Json} {l : Layout} {before after : List Json} {e : DecodeError} :
    payload.layout? = some l →
    FailsFirst RecordType.block.fields statementsField (.array (before ++ inner :: after)) e l →
    (∀ other ∈ before, ∃ s, decode other = .ok s) → decode inner = .error e →
    FirstUnreadable (.tagged "Block" payload) inner

variable {j outer inner payload : Json} {b : BuildError}

/-- A payload under the name of conditionals is decoded as a conditional. -/
theorem decode_tagged_if (payload : Json) :
    decode (.tagged "If" payload) = (IfStatement.decode payload).map IfStatement.toStatement :=
  (decode_eq _).trans (Json.choice_tagged StatementTag.ifElse rfl _ _)

/-- A payload under the name of blocks is decoded as a block. -/
theorem decode_tagged_block (payload : Json) :
    decode (.tagged "Block" payload) =
      (BlockStatement.decode payload).map BlockStatement.toStatement :=
  (decode_eq _).trans (Json.choice_tagged StatementTag.block rfl _ _)

/-- The error of a nested statement is passed on unchanged. -/
theorem FirstUnreadable.exists_decode_eq (h : FirstUnreadable outer inner) :
    ∃ e, decode inner = .error e ∧ decode outer = .error e := by
  cases h with
  | @branch payload _ l key e hl hkey hfirst =>
    have hinner : Json.nullable decode inner = .error e := hfirst.decode_eq
    have hpayload : IfStatement.decode payload = .error e :=
      (Answers.unreadable hfirst).decode_eq hl
    refine ⟨e, (Json.nullable_eq_error.mp hinner).2, ?_⟩
    rw [decode_tagged_if, hpayload]
    rfl
  | @child payload _ l before after e hl hfirst hbefore hinner =>
    have hpayload : BlockStatement.decode payload = .error e :=
      RecordType.decode_eq_of_failsFirst (T := .block) rfl hl hfirst
    refine ⟨e, hinner, ?_⟩
    rw [decode_tagged_block, hpayload]
    rfl

/-- What is inside a statement is smaller, so going inwards comes to an end. -/
theorem FirstUnreadable.sizeOf_lt (h : FirstUnreadable outer inner) :
    sizeOf inner < sizeOf outer := by
  cases h with
  | branch hl hkey hfirst => exact Nat.lt_trans (hfirst.sizeOf_lt hl) (Json.sizeOf_lt_tagged _ _)
  | @child payload _ l before after e hl hfirst hbefore hinner =>
    have hitem : inner ∈ before ++ inner :: after := by simp
    exact Nat.lt_trans (Json.sizeOf_lt_array hitem)
      (Nat.lt_trans (hfirst.sizeOf_lt hl) (Json.sizeOf_lt_tagged _ _))

/-- A conditional that is refused for a lacking part lacks it, or a branch is refused for that. -/
theorem incomplete_or_branch (h : IfStatement.decode payload = .error (.invalidArgument b)) :
    (∃ l, payload.layout? = some l ∧ Incomplete l b) ∨
      ∃ inner, FirstUnreadable (.tagged "If" payload) inner ∧
        decode inner = .error (.invalidArgument b) := by
  cases hl : payload.layout? with
  | none => simp [IfStatement.decode_eq, Json.record, hl, Except.bind] at h
  | some l =>
    have hanswers := (IfStatement.decode_eq_iff_answers hl _).mp h
    cases hanswers with
    | incomplete hincomplete => exact .inl ⟨l, rfl, hincomplete⟩
    | @unreadable f inner e hfirst =>
      have hf := hfirst.mem
      simp only [RecordType.fields, List.mem_cons, List.not_mem_nil, or_false] at hf
      have hbranch (key : String) (hkey : key = "then_branch" ∨ key = "else_branch")
          (hfirst : FailsFirst partFields (branchField key) inner (.invalidArgument b) l) :
          ∃ inner, FirstUnreadable (.tagged "If" payload) inner ∧
            decode inner = .error (.invalidArgument b) :=
        ⟨inner, .branch hl hkey hfirst, (Json.nullable_eq_error.mp hfirst.decode_eq).2⟩
      rcases hf with rfl | rfl | rfl | rfl
      · exact absurd hfirst.decode_eq (NeverLacksPart.condition.nullable inner b)
      · exact .inr (hbranch "then_branch" (.inl rfl) hfirst)
      · exact .inr (hbranch "else_branch" (.inr rfl) hfirst)
      · exact absurd hfirst.decode_eq (NeverLacksPart.span inner b)

/-- A block is refused for a lacking part only when a statement in it is. -/
theorem exists_child (h : BlockStatement.decode payload = .error (.invalidArgument b)) :
    ∃ inner, FirstUnreadable (.tagged "Block" payload) inner ∧
      decode inner = .error (.invalidArgument b) := by
  obtain ⟨l, f, v, hl, hfirst⟩ := RecordType.exists_failsFirst (T := .block) h
  have hf := hfirst.mem
  simp only [RecordType.fields, List.mem_cons, List.not_mem_nil, or_false] at hf
  rcases hf with rfl | rfl
  · rcases Json.listOf_eq_error.mp hfirst.decode_eq with
      ⟨before, inner, after, rfl, he, hbefore⟩ | ⟨-, he⟩
    · exact ⟨inner, .child hl hfirst hbefore he, he⟩
    · exact DecodeError.noConfusion he
  · exact absurd hfirst.decode_eq (NeverLacksPart.span v b)

/-- A statement that is refused for a lacking part is a conditional that lacks it, or a statement
directly inside it is refused for that. -/
theorem incomplete_or_inner (h : decode j = .error (.invalidArgument b)) :
    (∃ payload l, j = .tagged "If" payload ∧ payload.layout? = some l ∧ Incomplete l b) ∨
      ∃ inner, FirstUnreadable j inner ∧ decode inner = .error (.invalidArgument b) := by
  have hnames : (StatementTag.names.map Prod.snd).Nodup := by simp [StatementTag.names]
  rw [decode_eq] at h
  obtain ⟨name, tag, payload, rfl, hname, h⟩ := Json.exists_payload h
  cases tag with
  | ifElse =>
    have hif : StatementTag.names.lookup "If" = some .ifElse := rfl
    obtain rfl := (lookup_eq_some_iff_eq hnames hif name).mp hname
    rcases incomplete_or_branch (Except.map_eq_error.mp h) with ⟨l, hl, hincomplete⟩ | hbranch
    · exact .inl ⟨payload, l, rfl, hl, hincomplete⟩
    · exact .inr hbranch
  | block =>
    have hblock : StatementTag.names.lookup "Block" = some .block := rfl
    obtain rfl := (lookup_eq_some_iff_eq hnames hblock name).mp hname
    exact .inr (exists_child (Except.map_eq_error.mp h))
  | expression =>
    exact absurd (Except.map_eq_error.mp h) (NeverLacksPart.expressionStatement payload b)
  | returning => exact absurd (Except.map_eq_error.mp h) (NeverLacksPart.returnStatement payload b)
  | empty => exact absurd (Except.map_eq_error.mp h) (NeverLacksPart.emptyStatement payload b)

/-- A statement is refused for a lacking part when going inwards by what cannot be read leads to a
conditional that lacks it. -/
theorem decode_eq_invalidArgument_iff :
    decode j = .error (.invalidArgument b) ↔
      ∃ payload l, Relation.ReflTransGen FirstUnreadable j (.tagged "If" payload) ∧
        payload.layout? = some l ∧ Incomplete l b := by
  constructor
  · intro h
    induction hsize : sizeOf j using Nat.strong_induction_on generalizing j with
    | _ n ih =>
      subst hsize
      rcases incomplete_or_inner h with ⟨payload, l, rfl, hl, hincomplete⟩ | ⟨inner, hstep, hinner⟩
      · exact ⟨payload, l, .refl, hl, hincomplete⟩
      · obtain ⟨payload, l, hpath, hl, hincomplete⟩ := ih _ hstep.sizeOf_lt hinner rfl
        exact ⟨payload, l, .head hstep hpath, hl, hincomplete⟩
  · rintro ⟨payload, l, hpath, hl, hincomplete⟩
    -- From the innermost conditional outwards, every step passes the error on.
    induction hpath using Relation.ReflTransGen.head_induction_on with
    | refl =>
      rw [decode_tagged_if, Except.map_eq_error]
      exact (Answers.incomplete hincomplete).decode_eq hl
    | head hstep _ ih =>
      obtain ⟨e, hinner, houter⟩ := hstep.exists_decode_eq
      exact houter.trans (hinner.symm.trans ih)

end Statement

open IfStatement (Incomplete Answers)

/-- A conditional is decoded as `Answers` describes it, wherever it stands, and what it is then made
of is what it would have been built from. A statement is refused for the same error as the first
statement in it that cannot be read, and it is refused for a lacking part exactly when following
these inwards leads to a conditional that lacks it. -/
theorem decode_conditional_at_every_depth :
    (∀ members answer, IfStatement.decode (.object members) = answer ↔
      Answers (.named members) answer) ∧
    (∀ items answer, IfStatement.decode (.array items) = answer ↔
      Answers (.positional items) answer) ∧
    (∀ condition thenBranch elseBranch span,
      (IfStatement.ofParts (some condition) (some thenBranch) elseBranch).map (·.withSpan span) =
        .ok ⟨condition, thenBranch, elseBranch.getD .empty, span⟩) ∧
    (∀ payload, Statement.decode (.tagged "If" payload) =
      (IfStatement.decode payload).map IfStatement.toStatement) ∧
    (∀ outer inner, Statement.FirstUnreadable outer inner →
      ∃ e, Statement.decode inner = .error e ∧ Statement.decode outer = .error e) ∧
    ∀ j b, Statement.decode j = .error (.invalidArgument b) ↔
      ∃ payload l, Relation.ReflTransGen Statement.FirstUnreadable j (.tagged "If" payload) ∧
        payload.layout? = some l ∧ Incomplete l b := by
  refine ⟨fun members answer => ?_, fun items answer => ?_, IfStatement.map_withSpan_ofParts,
    Statement.decode_tagged_if, fun outer inner => Statement.FirstUnreadable.exists_decode_eq,
    fun j b => Statement.decode_eq_invalidArgument_iff⟩
  · exact IfStatement.decode_eq_iff_answers rfl answer
  · exact IfStatement.decode_eq_iff_answers rfl answer

/-- A conditional without a condition is refused for the then branch that the conditional in its
else branch lacks. -/
theorem decode_conditional_at_every_depth_else :
    let condition := Condition.encode ⟨.constant .null, {}⟩
    let inner := Json.tagged "If" (.object [("condition", condition)])
    let outer := Json.tagged "If" (.object [("else_branch", inner)])
    Statement.FirstUnreadable outer inner ∧
      Statement.decode outer = .error (.invalidArgument .absentThenBranch) := by
  intro condition inner outer
  obtain ⟨hobject, -, -, htagged, hpassed, -⟩ := decode_conditional_at_every_depth
  have hcondition :
      Json.nullable Condition.decode condition = .ok (some ⟨.constant .null, {}⟩) := by
    have hread : Condition.decode condition = .ok ⟨.constant .null, {}⟩ := by
      rw [Condition.decode_encode]
      exact if_pos allFinite_nil
    rw [Json.nullable_of_ne_null (by simp [condition, Condition.encode]), hread]
    rfl
  have hincomplete : Incomplete (.named [("condition", condition)]) .absentThenBranch := by
    refine ⟨?_, trivial, .inr ⟨?_, .inl rfl, rfl⟩⟩
    · simp [RecordField.AllRead, RecordType.fields, RecordField.ReadIn, RecordField.Reads,
        RecordType.spanField, List.lookup_cons, hcondition]
    · simp [Layout.Lacks, Layout.slot?, condition, Condition.encode]
  have hinner : Statement.decode inner = .error (.invalidArgument .absentThenBranch) := by
    rw [htagged, (hobject _ _).mpr (.incomplete hincomplete)]
    rfl
  have hfirst : Statement.FirstUnreadable outer inner := by
    have hbranch : Json.nullable Statement.decode inner =
        .error (.invalidArgument .absentThenBranch) :=
      Json.nullable_eq_error.mpr ⟨by simp [inner, Json.tagged], hinner⟩
    refine .branch rfl (.inr rfl) ⟨?_, rfl, hbranch, ?_⟩
    · simp [RecordType.fields, IfStatement.branchField]
    · intro g _ hlt j hj
      have hkey : g.key = "else_branch" := by
        by_contra hne
        rw [List.lookup_cons, beq_eq_false_iff_ne.mpr hne] at hj
        simp at hj
      rw [hkey] at hlt
      exact absurd hlt (lt_irrefl _)
  obtain ⟨e, he, houter⟩ := hpassed outer inner hfirst
  exact ⟨hfirst, houter.trans (he.symm.trans hinner)⟩

end StatementTree
