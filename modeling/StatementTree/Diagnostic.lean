import StatementTree.Span

/-!
# Diagnostics

A diagnostic says what was noticed, where, and perhaps what to do about it. It is displayed on
one line: severity, message, range, and the hint in parentheses.
-/

namespace StatementTree

/-- How grave a diagnostic is. Every diagnostic so far is a warning. -/
inductive Severity where
  | warning
  deriving DecidableEq

/-- The word that a diagnostic of this severity starts with. -/
def Severity.label : Severity → String
  | warning => "warning"

/-- Something noticed in a program, with its place. -/
structure Diagnostic where
  /-- How grave it is. -/
  severity : Severity
  /-- What was noticed. -/
  message : String
  /-- Where it was noticed. -/
  span : Span
  /-- What could be done about it. -/
  hint : Option String := none
  deriving DecidableEq

namespace Diagnostic

/-- A warning without a hint. -/
def warning (message : String) (span : Span) : Diagnostic :=
  { severity := .warning, message, span }

/-- The same diagnostic with the given hint. -/
def withHint (d : Diagnostic) (hint : String) : Diagnostic := { d with hint := some hint }

/-- The diagnostic on one line. -/
def display (d : Diagnostic) : String :=
  d.severity.label ++ ": " ++ d.message ++ " at " ++ toString d.span.start.toNat ++ ".." ++
    toString d.span.stop.toNat ++
    match d.hint with
    | some hint => " (hint: " ++ hint ++ ")"
    | none => ""

end Diagnostic

end StatementTree
