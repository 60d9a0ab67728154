import StatementTree.Event
import StatementTree.TextConfig
import StatementTree.Validator.Finding
import StatementTree.Visitor.Basic

/-!
# Validating statement lists

The validator visits every node and collects what is suspicious. At a conditional it looks at
the two branches, then at the condition, and then goes on inside the branches. It records at
most `maxDiagnostics` diagnostics and counts the findings beyond them.
-/

namespace StatementTree

/-- What a validator has found so far. -/
structure Validator where
  /-- The diagnostics recorded, in order. -/
  diagnostics : Array Diagnostic := #[]
  /-- How many findings came after the limit was reached. -/
  dropped : Nat := 0
  /-- What has been reported. -/
  log : Array Event := #[]

namespace Validator

/-- Records a finding, or only counts it when the limit is reached. -/
def report (v : Validator) (finding : Finding) : Validator :=
  if v.diagnostics.size < maxDiagnostics then
    let diagnostic := finding.toDiagnostic
    { v with
      diagnostics := v.diagnostics.push diagnostic
      log := v.log.push (.findingRecorded diagnostic) }
  else { v with dropped := v.dropped + 1 }

/-- Looks at the then branch of a conditional. -/
def checkThenBranch (node : IfStatement) (v : Validator) : Validator :=
  if node.thenBranch.isEmpty then v.report (.emptyThenBranch node.span) else v

/-- Looks at the else branch of a conditional. -/
def checkElseBranch (node : IfStatement) (v : Validator) : Validator :=
  match node.elseBranch with
  | .block [] span => v.report (.emptyElseBlock span)
  | _ => v

/-- Looks at a condition. -/
def checkCondition (condition : Condition) (v : Validator) : Validator :=
  match condition.constantValue? with
  | some value => v.report (.constantCondition value condition.span)
  | none => v

/-- The visitor that checks every conditional and every condition. -/
def visitor : Visitor Validator where
  onIf node v := (checkElseBranch node (checkThenBranch node v), .enter)
  onCondition := checkCondition

/-- The diagnostics and everything reported, with how many findings were dropped when some
were. -/
def finish (v : Validator) : List Diagnostic × List Event :=
  (v.diagnostics.toList,
    v.log.toList ++ if 0 < v.dropped then [.limitReached v.dropped maxDiagnostics] else [])

end Validator

/-- Validates statements: the diagnostics, and the events in the order in which they
happened. -/
def validate (statements : List Statement) : List Diagnostic × List Event :=
  (Validator.visitor.visitAll statements {}).finish

end StatementTree
