import StatementTree.Event
import StatementTree.Statement.Text
import StatementTree.Visitor.Basic

/-!
# Printing statement lists

Every statement of a list is printed on a line of its own. The text of a statement carries no
terminator, so the printer ends each line with a semicolon, except that of a block. An empty
statement prints as a bare semicolon.
-/

namespace StatementTree

/-- A printer with the lines that it has printed so far. -/
structure Printer where
  /-- The sizes that texts are written with. -/
  config : TextConfig := {}
  /-- The lines, without line breaks at their ends. -/
  lines : Array String := #[]

namespace Printer

/-- Prints a line as it is. -/
def line (p : Printer) (text : String) : Printer := { p with lines := p.lines.push text }

/-- Prints a line that ends with a semicolon. -/
def terminated (p : Printer) (text : String) : Printer := p.line (text ++ ";")

/-- A printer takes each statement as a whole and enters none. -/
def visitor : Visitor Printer where
  onIf node p := (p.terminated (node.toStatement.textWith p.config), .skip)
  onBlock node p := (p.line (node.toStatement.textWith p.config), .skip)
  onExpression node p := p.terminated node.expr.text
  onReturn node p := p.terminated (node.toStatement.textWith p.config)
  onEmpty p := p.line ";"

/-- The printed lines with a line break between any two, and the report of how many there
are. -/
def finish (p : Printer) : String × Event :=
  ("\n".intercalate p.lines.toList, .statementsPrinted p.lines.size)

end Printer

/-- Prints statements under the given sizes. -/
def printWith (config : TextConfig) (statements : List Statement) : String × Event :=
  (Printer.visitor.visitAll statements { config }).finish

/-- Prints statements. -/
def print (statements : List Statement) : String × Event := printWith default statements

end StatementTree
