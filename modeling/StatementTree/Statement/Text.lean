import StatementTree.Statement.Node
import StatementTree.TextConfig

/-!
# The text of statements

A statement prints on one line and without a terminator. A block stands in braces, with a
semicolon between its statements. Between a then branch and `else` stands a semicolon unless
the branch is a block, and an empty else branch prints nothing, not even `else`. A statement
is written onto what came before, and `Statement.write_eq` says that this appends its text.
-/

namespace StatementTree

namespace Statement

/-- What stands before an else branch: a then branch that is no block is ended first. -/
def elseSeparator (thenBranch : Statement) : String :=
  if thenBranch.isBlock then " else " else "; else "

mutual

/-- Writes a statement behind `out`. -/
def write : Statement → String → String
  | ifElse condition thenBranch elseBranch _, out =>
    let out := thenBranch.write (condition.expr.write (out ++ "if (") ++ ") ")
    if elseBranch.isEmpty then out else elseBranch.write (out ++ thenBranch.elseSeparator)
  | block statements _, out => writeAll statements (out ++ "\x7b ") ++ " \x7d"
  | expression expr _, out => expr.write out
  | returning none _, out => out ++ "return"
  | returning (some value) _, out => value.write (out ++ "return ")
  | empty, out => out

/-- Writes the statements of a block behind `out`, with a semicolon between any two. -/
def writeAll : List Statement → String → String
  | [], out => out
  | [s], out => s.write out
  | s :: rest, out => writeAll rest (s.write out ++ "; ")

end

attribute [local simp] write writeAll

/-- The canonical text of a statement. -/
def text (s : Statement) : String := s.write ""

/-- The canonical text of the statements of a block, without the braces. -/
def joinedText (statements : List Statement) : String := writeAll statements ""

/-- The text under given sizes. They say how the text is put together and not what it is. -/
def textWith (_ : TextConfig) (s : Statement) : String := s.text

/-- Statements are put behind what is written already, once each of them is. -/
private theorem writeAll_append {statements : List Statement}
    (h : ∀ s ∈ statements, ∀ out, s.write out = out ++ s.write "") (out : String) :
    writeAll statements out = out ++ writeAll statements "" := by
  induction statements generalizing out with
  | nil => simp
  | cons s rest ih =>
    cases rest with
    | nil => simpa using h s (by simp) out
    | cons next rest =>
      have hrest := ih fun t ht => h t (List.mem_cons_of_mem _ ht)
      simp only [writeAll]
      rw [hrest (s.write out ++ "; "), hrest (s.write "" ++ "; "), h s (by simp) out]
      simp [String.append_assoc]

/-- Writing a statement appends its text. -/
theorem write_eq (s : Statement) (out : String) : s.write out = out ++ s.text := by
  unfold text
  induction s generalizing out with
  | ifElse condition thenBranch elseBranch _ ihthen ihelse =>
    simp only [write]
    split
    · rw [ihthen, ihthen (condition.expr.write ("" ++ "if (") ++ ") "),
        Expr.write_eq, Expr.write_eq _ ("" ++ "if (")]
      simp [String.append_assoc]
    · rw [ihelse, ihthen, ihelse (thenBranch.write _ ++ _),
        ihthen (condition.expr.write ("" ++ "if (") ++ ") "),
        Expr.write_eq, Expr.write_eq _ ("" ++ "if (")]
      simp [String.append_assoc]
  | block statements _ ih =>
    simp only [write]
    rw [writeAll_append ih, writeAll_append ih ("" ++ "\x7b ")]
    simp [String.append_assoc]
  | expression expr _ => simp only [write, Expr.write_eq]; simp
  | returning value _ =>
    cases value with
    | none => simp
    | some value => simp only [write, Expr.write_eq]; simp [String.append_assoc]
  | empty => simp

/-- Writing the statements of a block appends their text. -/
theorem writeAll_eq (statements : List Statement) (out : String) :
    writeAll statements out = out ++ joinedText statements :=
  writeAll_append (fun s _ out => write_eq s out) out

/-- An empty list of statements is written as nothing. -/
@[simp] theorem joinedText_nil : joinedText [] = "" := by simp [joinedText]

/-- One statement is written without a separator. -/
@[simp] theorem joinedText_singleton (s : Statement) : joinedText [s] = s.text := by
  simp [joinedText, text]

/-- A semicolon stands between two neighbouring statements. -/
@[simp] theorem joinedText_cons_cons (s next : Statement) (rest : List Statement) :
    joinedText (s :: next :: rest) = s.text ++ "; " ++ joinedText (next :: rest) := by
  rw [joinedText, writeAll, writeAll_eq, write_eq]
  · simp [String.append_assoc]
  · simp

/-- An empty else branch leaves no trace. -/
@[simp] theorem text_ifElse_empty (condition : Condition) (thenBranch : Statement) (span : Span) :
    (ifElse condition thenBranch empty span).text =
      "if (" ++ condition.text ++ ") " ++ thenBranch.text := by
  rw [text, write]
  simp [isEmpty, Expr.write_eq, write_eq thenBranch, Condition.text]

/-- Any other else branch is announced by `else`. -/
theorem text_ifElse {elseBranch : Statement} (h : elseBranch.isEmpty = false)
    (condition : Condition) (thenBranch : Statement) (span : Span) :
    (ifElse condition thenBranch elseBranch span).text =
      "if (" ++ condition.text ++ ") " ++ thenBranch.text ++ thenBranch.elseSeparator ++
        elseBranch.text := by
  rw [text, write]
  simp [h, Expr.write_eq, write_eq thenBranch, write_eq elseBranch, Condition.text]

/-- A block is written as its statements between braces. -/
@[simp] theorem text_block (statements : List Statement) (span : Span) :
    (block statements span).text = "\x7b " ++ joinedText statements ++ " \x7d" := by
  rw [text, write, writeAll_eq]
  simp

/-- An expression statement is written as its expression. -/
@[simp] theorem text_expression (expr : Expr) (span : Span) :
    (expression expr span).text = expr.text := by
  rw [text, write, Expr.write_eq]
  simp

/-- A return without a value is written as the word alone. -/
@[simp] theorem text_returning_none (span : Span) : (returning none span).text = "return" := by
  simp [text]

/-- A return with a value is written as the word and the value. -/
@[simp] theorem text_returning_some (value : Expr) (span : Span) :
    (returning (some value) span).text = "return " ++ value.text := by
  rw [text, write, Expr.write_eq]
  simp

/-- The empty statement is written as nothing. -/
@[simp] theorem text_empty : empty.text = "" := by simp [text]

end Statement

/-- The canonical text of a conditional. -/
def IfStatement.text (node : IfStatement) : String := node.toStatement.text

/-- The canonical text of a block. -/
def BlockStatement.text (node : BlockStatement) : String := node.toStatement.text

/-- The canonical text of an expression statement. -/
def ExpressionStatement.text (node : ExpressionStatement) : String := node.toStatement.text

/-- The canonical text of a return. -/
def ReturnStatement.text (node : ReturnStatement) : String := node.toStatement.text

end StatementTree
