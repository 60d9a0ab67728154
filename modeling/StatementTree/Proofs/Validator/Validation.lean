import StatementTree.Proofs.Validator.Findings

/-!
# The validator reports the findings, up to a limit

A validator has always recorded the first findings of what it has seen so far and counted the
others. Reporting one more finding keeps this, whether or not the limit has been reached, and so
does visiting a whole statement. At the end this says what `validate` answers on any program.
-/

namespace StatementTree

namespace Validator

/-- A validator that has come across some findings has recorded the first of them, has reported
those it recorded, and has counted the others. -/
structure Records (v : Validator) (found : List Finding) : Prop where
  /-- The diagnostics are those of the first findings. -/
  diagnostics : v.diagnostics.toList = (found.take maxDiagnostics).map Finding.toDiagnostic
  /-- The findings beyond the limit are counted. -/
  dropped : v.dropped = found.length - maxDiagnostics
  /-- Every diagnostic has been reported. -/
  log : v.log.toList = v.diagnostics.toList.map Event.findingRecorded

/-- A validator starts without findings. -/
theorem records_nil : Records {} [] := by
  constructor <;> simp

namespace Records

variable {v : Validator} {found : List Finding}

/-- The number of diagnostics is that of the findings until the limit is reached. -/
theorem size_eq (h : v.Records found) : v.diagnostics.size = min maxDiagnostics found.length := by
  rw [← Array.length_toList, h.diagnostics, List.length_map, List.length_take]

/-- One more finding is recorded or counted. -/
theorem report (h : v.Records found) (finding : Finding) :
    (v.report finding).Records (found ++ [finding]) := by
  have hsize := h.size_eq
  have hdropped := h.dropped
  have hlength : (found ++ [finding]).length = found.length + 1 := by simp
  unfold Validator.report
  by_cases hroom : v.diagnostics.size < maxDiagnostics
  · have hfits : found.length < maxDiagnostics := by omega
    have hall : found.take maxDiagnostics = found := List.take_of_length_le (by omega)
    have hnext : (found ++ [finding]).take maxDiagnostics = found ++ [finding] :=
      List.take_of_length_le (by omega)
    rw [if_pos hroom]
    constructor
    · simp [h.diagnostics, hall, hnext]
    · change v.dropped = _
      omega
    · simp [h.log]
  · have hfull : maxDiagnostics ≤ found.length := by omega
    have hnext : (found ++ [finding]).take maxDiagnostics = found.take maxDiagnostics :=
      List.take_append_of_le_length hfull
    rw [if_neg hroom]
    constructor
    · simp [h.diagnostics, hnext]
    · change v.dropped + 1 = _
      omega
    · exact h.log

/-- Looking at the then branch comes across the finding about it. -/
theorem checkThenBranch (h : v.Records found) (node : IfStatement) :
    (Validator.checkThenBranch node v).Records (found ++ node.thenFindings) := by
  unfold Validator.checkThenBranch IfStatement.thenFindings
  cases node.thenBranch with
  | empty => exact h.report _
  | _ => simpa [Statement.isEmpty] using h

/-- Looking at the else branch comes across the finding about it. -/
theorem checkElseBranch (h : v.Records found) (node : IfStatement) :
    (Validator.checkElseBranch node v).Records (found ++ node.elseFindings) := by
  unfold Validator.checkElseBranch IfStatement.elseFindings
  cases node.elseBranch with
  | block statements span =>
    cases statements with
    | nil => exact h.report _
    | cons s rest => simpa using h
  | _ => simpa using h

/-- Looking at a condition comes across the finding about it. -/
theorem checkCondition (h : v.Records found) (c : Condition) :
    (Validator.checkCondition c v).Records (found ++ c.findings) := by
  unfold Validator.checkCondition
  cases hvalue : c.constantValue? with
  | some value =>
    rw [Condition.findings_of_eq_some hvalue]
    exact h.report _
  | none => simpa [Condition.findings_of_eq_none hvalue] using h

/-- Visiting some statements comes across their findings when visiting each of them does. -/
theorem visitAll_of {statements : List Statement}
    (hall : ∀ s ∈ statements, ∀ {v : Validator} {found : List Finding}, v.Records found →
      (visitor.visit s v).Records (found ++ s.findings))
    (h : v.Records found) :
    (visitor.visitAll statements v).Records (found ++ Statement.findingsAll statements) := by
  induction statements generalizing v found with
  | nil => simpa [Visitor.visitAll] using h
  | cons s rest ih =>
    have hhead := hall s (by simp) h
    have htail := ih (fun t ht => hall t (List.mem_cons_of_mem _ ht)) hhead
    simpa [Visitor.visitAll] using htail

/-- Visiting a statement comes across its findings in order. -/
theorem visit (h : v.Records found) (s : Statement) :
    (visitor.visit s v).Records (found ++ s.findings) := by
  induction s generalizing v found with
  | ifElse condition thenBranch elseBranch span ihthen ihelse =>
    let node : IfStatement := ⟨condition, thenBranch, elseBranch, span⟩
    have hown := ((h.checkThenBranch node).checkElseBranch node).checkCondition condition
    have hbranches := ihelse (ihthen hown)
    have hfindings := Statement.findings_ifElse node
    simp only [IfStatement.toStatement, IfStatement.findings, node] at hfindings
    rw [hfindings]
    simpa [Visitor.visit, visitor, node] using hbranches
  | block statements span ih =>
    rw [Statement.findings_block]
    exact visitAll_of (fun s hs _ _ hv => ih s hs hv) h
  | expression expr span => simpa [Visitor.visit, visitor] using h
  | returning value span => simpa [Visitor.visit, visitor] using h
  | empty => simpa [Visitor.visit, visitor] using h

end Records

end Validator

/-- A diagnostic is displayed as a warning, with its range and, in parentheses, its hint. -/
theorem Diagnostic.display_eq (d : Diagnostic) :
    d.display = "warning: " ++ d.message ++ " at " ++ toString d.span.start.toNat ++ ".." ++
      toString d.span.stop.toNat ++ d.hint.elim "" (" (hint: " ++ · ++ ")") := by
  have hlabel : d.severity.label ++ ": " = "warning: " := by
    cases d.severity
    decide
  rw [display, hlabel]
  cases d.hint <;> rfl

/-- The diagnostics are those of the first findings of the program, each with the words for its
kind. Each of them is reported as it is displayed, and how many findings were dropped is reported
last, if any were. -/
theorem validate_eq_findings (statements : List Statement) :
    let found := Statement.findingsAll statements
    let recorded : List Diagnostic := (found.take 256).map fun
      | .emptyThenBranch span =>
        { severity := .warning
          message := "empty then-branch"
          span
          hint := some "nothing runs when the condition holds" }
      | .emptyElseBlock span =>
        { severity := .warning
          message := "empty else block"
          span
          hint := some "drop the `else` clause" }
      | .constantCondition true span =>
        { severity := .warning
          message := "constant condition `true`"
          span
          hint := some "only the then-branch can run" }
      | .constantCondition false span =>
        { severity := .warning
          message := "constant condition `false`"
          span
          hint := some "only the else-branch can run" }
    (validate statements).1 = recorded ∧
      (validate statements).2.map (fun e => (e.level, e.message, e.fields)) =
        recorded.map (fun d =>
            (.debug, "validation finding",
              [("diagnostic", .text ("warning: " ++ d.message ++ " at " ++
                toString d.span.start.toNat ++ ".." ++ toString d.span.stop.toNat ++
                d.hint.elim "" (" (hint: " ++ · ++ ")")))])) ++
          if 256 < found.length then
            [(.debug, "diagnostic limit reached",
              [("dropped", .count (found.length - 256)), ("limit", .count 256)])]
          else [] := by
  intro found recorded
  have h : (Validator.visitor.visitAll statements {}).Records found :=
    Validator.Records.visitAll_of (fun s _ _ _ hv => hv.visit s) Validator.records_nil
  have hrecorded : (found.take maxDiagnostics).map Finding.toDiagnostic = recorded := by
    refine List.map_congr_left fun f _ => ?_
    cases f with
    | emptyThenBranch span => rfl
    | emptyElseBlock span => rfl
    | constantCondition value span => cases value <;> rfl
  have hdiagnostics := h.diagnostics.trans hrecorded
  refine ⟨hdiagnostics, ?_⟩
  simp only [← Diagnostic.display_eq]
  unfold validate Validator.finish
  rw [h.log, hdiagnostics, h.dropped, List.map_append, List.map_map]
  refine congrArg (recorded.map _ ++ ·) ?_
  by_cases hlimit : 256 < found.length
  · have hdropped : 0 < found.length - maxDiagnostics := Nat.sub_pos_of_lt hlimit
    rw [if_pos hlimit, if_pos hdropped]
    rfl
  · have hdropped : ¬ 0 < found.length - maxDiagnostics := by
      have hmax : maxDiagnostics = 256 := rfl
      omega
    rw [if_neg hlimit, if_neg hdropped]
    rfl

end StatementTree
