import Mathlib.Data.List.Basic
import StatementTree.Statement.Edit

/-!
# The last write wins

Each part of a conditional is written by edits of one kind. After any number of edits a part is
what the last edit that wrote it left there, and edits that failed have written nothing: a failed
edit changes neither the conditional nor the log. What holds of one edit is said once for all
edits and parts, and carried through a run for anything that every edit either writes or keeps.
-/

namespace StatementTree

namespace Edit

/-- The condition that an edit writes. -/
def condition? : Edit → Option Condition
  | setCondition condition => condition
  | _ => none

/-- The then branch that an edit writes. -/
def thenBranch? : Edit → Option Statement
  | setThenBranch branch => branch
  | _ => none

/-- The else branch that an edit writes. Taking the branch away writes the empty statement. -/
def elseBranch? : Edit → Option Statement
  | setElseBranch none => some .empty
  | setElseBranch (some branch) => some branch
  | _ => none

/-- The place that an edit writes. -/
def span? : Edit → Option Span
  | setSpan span => some span
  | _ => none

/-- What an edit answers, whatever it is made to. -/
def answer : Edit → Except BuildError Unit
  | setCondition none => .error .absentCondition
  | setThenBranch none => .error .absentThenBranch
  | _ => .ok ()

/-- The event that an edit reports, as it is shown. -/
def report? : Edit → Option (Level × String × List (String × FieldValue))
  | setCondition (some condition) =>
    some (.trace, "replacing child",
      [("field", .text "condition"), ("text", .text condition.text)])
  | setThenBranch (some _) => some (.trace, "replacing child", [("field", .text "then_branch")])
  | setElseBranch none | setElseBranch (some .empty) =>
    some (.trace, "replacing child", [("field", .text "else_branch"), ("empty", .flag true)])
  | setElseBranch (some _) =>
    some (.trace, "replacing child", [("field", .text "else_branch"), ("empty", .flag false)])
  | _ => none

/-- Only replacing the condition or the then branch by nothing fails, for want of that part. -/
theorem answer_eq_error_iff {edit : Edit} {e : BuildError} :
    edit.answer = .error e ↔
      edit = setCondition none ∧ e.part = "condition" ∨
        edit = setThenBranch none ∧ e.part = "then_branch" := by
  have hcondition : e.part = "condition" ↔ .absentCondition = e := by cases e <;> decide
  have hthen : e.part = "then_branch" ↔ .absentThenBranch = e := by cases e <;> decide
  rw [hcondition, hthen]
  cases edit with
  | setCondition condition => cases condition <;> simp [answer]
  | setThenBranch branch => cases branch <;> simp [answer]
  | setElseBranch branch => simp [answer]
  | setSpan span => simp [answer]

end Edit

namespace EditSession

/-- The events of a session as they are shown. -/
def shownLog (s : EditSession) : List (Level × String × List (String × FieldValue)) :=
  s.log.map fun event => (event.level, event.message, event.fields)

variable (s : EditSession)

/-- An edit gives its answer and writes what it writes, and every other part is kept. -/
theorem apply_node (edit : Edit) :
    (s.apply edit).1 = edit.answer ∧
      (s.apply edit).2.node =
        { condition := edit.condition?.getD s.node.condition
          thenBranch := edit.thenBranch?.getD s.node.thenBranch
          elseBranch := edit.elseBranch?.getD s.node.elseBranch
          span := edit.span?.getD s.node.span } := by
  cases edit with
  | setCondition condition => cases condition <;> exact ⟨rfl, rfl⟩
  | setThenBranch branch => cases branch <;> exact ⟨rfl, rfl⟩
  | setElseBranch branch => cases branch <;> exact ⟨rfl, rfl⟩
  | setSpan span => exact ⟨rfl, rfl⟩

/-- An edit reports no more than its own event, behind what has been reported. -/
theorem apply_shownLog (edit : Edit) :
    (s.apply edit).2.shownLog = s.shownLog ++ edit.report?.toList := by
  have hreport (event : Event) : shownLog ⟨s.node, s.log ++ [event]⟩ =
      s.shownLog ++ [(event.level, event.message, event.fields)] := by
    simp [shownLog]
  cases edit with
  | setCondition condition =>
    cases condition with
    | none => exact (List.append_nil _).symm
    | some condition => exact hreport (.conditionReplaced condition.text)
  | setThenBranch branch =>
    cases branch with
    | none => exact (List.append_nil _).symm
    | some branch => exact hreport .thenBranchReplaced
  | setElseBranch branch =>
    cases branch with
    | none => exact hreport (.elseBranchReplaced true)
    | some branch => cases branch <;> exact hreport (.elseBranchReplaced _)
  | setSpan span => exact (List.append_nil _).symm

/-- An edit that fails leaves the conditional and the log as they were. -/
theorem apply_eq_of_error {s : EditSession} {edit : Edit} {e : BuildError}
    (h : (s.apply edit).1 = .error e) : s.apply edit = (.error e, s) := by
  have hanswer : edit.answer = .error e := (s.apply_node edit).1.symm.trans h
  rcases Edit.answer_eq_error_iff.mp hanswer with ⟨rfl, -⟩ | ⟨rfl, -⟩
  · obtain rfl : .absentCondition = e := Except.error.inj hanswer
    rfl
  · obtain rfl : .absentThenBranch = e := Except.error.inj hanswer
    rfl

/-- The edits of a run answer as each of them does on its own. -/
theorem run_answers (edits : List Edit) : (s.run edits).1 = edits.map Edit.answer := by
  induction edits generalizing s with
  | nil => rfl
  | cons edit rest ih => rw [run, List.map_cons, ← ih (s.apply edit).2, ← (s.apply_node edit).1]

/-- What every edit either writes or keeps is, after a run, what the last edit that wrote it
left. -/
theorem run_lastWrite {α : Type} (part : EditSession → α) (written? : Edit → Option α)
    (h : ∀ s edit, part (s.apply edit).2 = (written? edit).getD (part s)) (edits : List Edit) :
    part (s.run edits).2 = (edits.filterMap written?).getLastD (part s) := by
  induction edits generalizing s with
  | nil => rfl
  | cons edit rest ih =>
    -- What the first edit leaves is where the rest of the run starts from.
    rw [run, ih, h s edit]
    cases hwritten : written? edit with
    | none => rw [List.filterMap_cons_none hwritten, Option.getD_none]
    | some value => rw [List.filterMap_cons_some hwritten, List.getLastD_cons, Option.getD_some]

/-- A run reports the events of its edits in order. -/
theorem run_shownLog (edits : List Edit) :
    (s.run edits).2.shownLog = s.shownLog ++ edits.filterMap Edit.report? := by
  induction edits generalizing s with
  | nil => exact (List.append_nil _).symm
  | cons edit rest ih =>
    rw [run, ih, apply_shownLog, List.append_assoc]
    cases hreport : edit.report? with
    | none => rw [List.filterMap_cons_none hreport]; rfl
    | some shown => rw [List.filterMap_cons_some hreport]; rfl

/-- In a run of edits those fail that replace the condition or the then branch by nothing. An edit
that fails names the part and leaves everything as it was. After the run each part is what the
last edit that wrote it left, or what it was in the beginning, and the log has got the events of
the edits that did not fail, in order. -/
theorem run_eq_lastWrites (edits : List Edit) :
    let last := (s.run edits).2
    ((s.run edits).1 = edits.map Edit.answer ∧
      ∀ (t : EditSession) (edit : Edit) (e : BuildError),
        ((t.apply edit).1 = .error e ↔
          edit = .setCondition none ∧ e.part = "condition" ∨
            edit = .setThenBranch none ∧ e.part = "then_branch") ∧
        ((t.apply edit).1 = .error e ↔ t.apply edit = (.error e, t))) ∧
      last.node.condition = (edits.filterMap Edit.condition?).getLastD s.node.condition ∧
      last.node.thenBranch = (edits.filterMap Edit.thenBranch?).getLastD s.node.thenBranch ∧
      last.node.elseBranch = (edits.filterMap Edit.elseBranch?).getLastD s.node.elseBranch ∧
      last.node.span = (edits.filterMap Edit.span?).getLastD s.node.span ∧
      last.shownLog = s.shownLog ++ edits.filterMap Edit.report? := by
  intro last
  have hanswer (t : EditSession) (edit : Edit) (e : BuildError) :
      (t.apply edit).1 = .error e ↔
        edit = .setCondition none ∧ e.part = "condition" ∨
          edit = .setThenBranch none ∧ e.part = "then_branch" := by
    rw [(t.apply_node edit).1, Edit.answer_eq_error_iff]
  have hcondition (t : EditSession) (edit : Edit) : (t.apply edit).2.node.condition =
      edit.condition?.getD t.node.condition := by rw [(t.apply_node edit).2]
  have hthen (t : EditSession) (edit : Edit) : (t.apply edit).2.node.thenBranch =
      edit.thenBranch?.getD t.node.thenBranch := by rw [(t.apply_node edit).2]
  have helse (t : EditSession) (edit : Edit) : (t.apply edit).2.node.elseBranch =
      edit.elseBranch?.getD t.node.elseBranch := by rw [(t.apply_node edit).2]
  have hspan (t : EditSession) (edit : Edit) : (t.apply edit).2.node.span =
      edit.span?.getD t.node.span := by rw [(t.apply_node edit).2]
  refine ⟨⟨s.run_answers edits, fun t edit e => ⟨hanswer t edit e, ?_⟩⟩, ?_, ?_, ?_, ?_, ?_⟩
  · exact ⟨apply_eq_of_error, congrArg Prod.fst⟩
  · exact s.run_lastWrite (·.node.condition) Edit.condition? hcondition edits
  · exact s.run_lastWrite (·.node.thenBranch) Edit.thenBranch? hthen edits
  · exact s.run_lastWrite (·.node.elseBranch) Edit.elseBranch? helse edits
  · exact s.run_lastWrite (·.node.span) Edit.span? hspan edits
  · exact s.run_shownLog edits

end EditSession

end StatementTree
