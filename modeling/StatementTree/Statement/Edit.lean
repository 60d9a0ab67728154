import StatementTree.Event
import StatementTree.Statement.Text

/-!
# Editing a conditional

The parts of a conditional can be replaced one at a time. The condition and the then branch
cannot be taken away, so replacing one of them by nothing fails; taking away the else branch
leaves the empty statement. The replacement of a part is reported as an event before it is made,
and moving the span reports nothing. An edit that fails does not take back what it did before:
that it has done nothing yet is a fact about each edit.
-/

namespace StatementTree

/-- A conditional with another place in the source. -/
def IfStatement.withSpan (node : IfStatement) (span : Span) : IfStatement := { node with span }

/-- A conditional under edit, with the events of its edits in order. -/
structure EditSession where
  /-- The conditional as the edits left it. -/
  node : IfStatement
  /-- What the edits reported. -/
  log : List Event := []

/-- Something done to a conditional under edit. It may fail, and then leaves the session as it
was at that point. -/
abbrev EditM := ExceptT BuildError (StateM EditSession)

namespace EditM

/-- A part that must be present. -/
def present {α : Type} (absence : BuildError) : Option α → EditM α
  | none => throw absence
  | some part => pure part

/-- Reports an event. -/
def report (event : Event) : EditM Unit := modify fun s => { s with log := s.log ++ [event] }

/-- Changes the conditional. -/
def modifyNode (change : IfStatement → IfStatement) : EditM Unit :=
  modify fun s => { s with node := change s.node }

/-- Replaces the condition, which must be present. -/
def setCondition (condition : Option Condition) : EditM Unit := do
  let condition ← present .absentCondition condition
  report (.conditionReplaced condition.text)
  modifyNode fun node => { node with condition }

/-- Replaces the then branch, which must be present. -/
def setThenBranch (branch : Option Statement) : EditM Unit := do
  let thenBranch ← present .absentThenBranch branch
  report .thenBranchReplaced
  modifyNode fun node => { node with thenBranch }

/-- Replaces the else branch; an absent one is the empty statement. -/
def setElseBranch (branch : Option Statement) : EditM Unit := do
  let elseBranch := branch.getD .empty
  report (.elseBranchReplaced elseBranch.isEmpty)
  modifyNode fun node => { node with elseBranch }

/-- Moves the conditional to another place in the source. -/
def setSpan (span : Span) : EditM Unit := modifyNode fun node => node.withSpan span

end EditM

/-- One change to a conditional. -/
inductive Edit where
  /-- Replaces the condition, which must be present. -/
  | setCondition (condition : Option Condition)
  /-- Replaces the then branch, which must be present. -/
  | setThenBranch (branch : Option Statement)
  /-- Replaces the else branch; an absent one is the empty statement. -/
  | setElseBranch (branch : Option Statement)
  /-- Moves the conditional to another place in the source. -/
  | setSpan (span : Span)

/-- Makes an edit. -/
def Edit.perform : Edit → EditM Unit
  | setCondition condition => EditM.setCondition condition
  | setThenBranch branch => EditM.setThenBranch branch
  | setElseBranch branch => EditM.setElseBranch branch
  | setSpan span => EditM.setSpan span

namespace EditSession

/-- Makes one edit: what it answers, and the session after it. -/
def apply (s : EditSession) (edit : Edit) : Except BuildError Unit × EditSession :=
  edit.perform.run s

/-- Makes the edits in order, going on behind those that fail: what each of them answers, and
the session after all of them. -/
def run (s : EditSession) : List Edit → List (Except BuildError Unit) × EditSession
  | [] => ([], s)
  | edit :: rest =>
    let (answer, next) := s.apply edit
    let (answers, last) := next.run rest
    (answer :: answers, last)

end EditSession

end StatementTree
