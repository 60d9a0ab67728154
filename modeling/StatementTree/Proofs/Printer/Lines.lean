import StatementTree.Printer
import StatementTree.Proofs.Text.LineBreaks

/-!
# Printed lines

A printer adds one line for each statement, in order and whatever its sizes are. No line is empty,
and a line has no line break when the names in its statement have none. The lines can then be
read back from what is printed by splitting it at its line breaks.
-/

namespace StatementTree

namespace Printer

/-- The line that a statement prints. -/
def lineOf (s : Statement) : String := if s.isBlock then s.text else s.text ++ ";"

/-- Visiting a statement prints its line, on whichever way its text is put together. -/
theorem visit_eq (s : Statement) (p : Printer) : visitor.visit s p = p.line (lineOf s) := by
  cases s <;>
    simp [Visitor.visit, visitor, lineOf, terminated, Statement.isBlock, Statement.textWith,
      IfStatement.toStatement, BlockStatement.toStatement, ReturnStatement.toStatement]

/-- Visiting statements adds their lines to those that are there. -/
theorem toList_lines_visitAll (statements : List Statement) (p : Printer) :
    (visitor.visitAll statements p).lines.toList = p.lines.toList ++ statements.map lineOf := by
  induction statements generalizing p with
  | nil => simp [Visitor.visitAll]
  | cons s rest ih =>
    rw [Visitor.visitAll, visit_eq, ih]
    simp [line]

/-- A new printer prints the lines of the statements and no others. -/
theorem toList_lines_visitAll_new (config : TextConfig) (statements : List Statement) :
    (visitor.visitAll statements { config }).lines.toList = statements.map lineOf := by
  simp [toList_lines_visitAll]

end Printer

/-- What is printed depends on the lines of the statements and not on the sizes. -/
theorem printWith_eq (config : TextConfig) (statements : List Statement) :
    printWith config statements =
      ("\n".intercalate (statements.map Printer.lineOf), .statementsPrinted statements.length) := by
  have hlines := Printer.toList_lines_visitAll_new config statements
  have hcount : (Printer.visitor.visitAll statements { config }).lines.size =
      statements.length := by
    simpa using congrArg List.length hlines
  rw [printWith, Printer.finish, hlines, hcount]

end StatementTree
