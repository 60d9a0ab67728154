import StatementTree.Diagnostic

/-!
# Events

Editing, printing and validating report what they do as events. An event has a level, a fixed
message and named fields; which fields there are depends on what happened.
-/

namespace StatementTree

/-- How much detail an event belongs to. -/
inductive Level where
  | debug
  | trace
  deriving DecidableEq

/-- The name of a level. -/
def Level.name : Level → String
  | debug => "DEBUG"
  | trace => "TRACE"

/-- The value of a field of an event. -/
inductive FieldValue where
  /-- A text. -/
  | text (value : String)
  /-- A number of things. -/
  | count (value : Nat)
  /-- A truth value. -/
  | flag (value : Bool)
  deriving DecidableEq

/-- Something that happened to a tree or in a pass over it. -/
inductive Event where
  /-- A conditional got another condition, which has the given text. -/
  | conditionReplaced (text : String)
  /-- A conditional got another then branch. -/
  | thenBranchReplaced
  /-- A conditional got another else branch, which is empty or not. -/
  | elseBranchReplaced (empty : Bool)
  /-- A printer finished with the given number of lines. -/
  | statementsPrinted (lines : Nat)
  /-- A validator recorded a diagnostic. -/
  | findingRecorded (diagnostic : Diagnostic)
  /-- A validator finished after it had dropped findings beyond its limit. -/
  | limitReached (dropped limit : Nat)
  deriving DecidableEq

namespace Event

/-- Edits are traced; passes over trees report at the debug level. -/
def level : Event → Level
  | conditionReplaced _ | thenBranchReplaced | elseBranchReplaced _ => .trace
  | statementsPrinted _ | findingRecorded _ | limitReached .. => .debug

/-- The message of an event. -/
def message : Event → String
  | conditionReplaced _ | thenBranchReplaced | elseBranchReplaced _ => "replacing child"
  | statementsPrinted _ => "printed statements"
  | findingRecorded _ => "validation finding"
  | limitReached .. => "diagnostic limit reached"

/-- The fields of an event, with their names. -/
def fields : Event → List (String × FieldValue)
  | conditionReplaced text => [("field", .text "condition"), ("text", .text text)]
  | thenBranchReplaced => [("field", .text "then_branch")]
  | elseBranchReplaced empty => [("field", .text "else_branch"), ("empty", .flag empty)]
  | statementsPrinted lines => [("lines", .count lines)]
  | findingRecorded diagnostic => [("diagnostic", .text diagnostic.display)]
  | limitReached dropped limit => [("dropped", .count dropped), ("limit", .count limit)]

end Event

end StatementTree
