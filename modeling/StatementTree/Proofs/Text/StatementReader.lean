import StatementTree.Statement.Text
import StatementTree.Proofs.Text.ExprReading

/-!
# Reading statements

A reader for the text of statements. The first word tells conditionals and returns from
expressions, a brace starts a block, and a statement is empty where none of these can start. A
then branch is read first; only then does the reader look for the `else` that belongs to it,
behind a semicolon unless the branch is a block.
-/

namespace StatementTree

namespace Reader

/-- Reads what follows the word `return`: a value, unless the block ends or nothing follows. -/
def readReturn : List Char → Option (Statement × List Char)
  | ' ' :: '}' :: cs => some (.returning none, ' ' :: '}' :: cs)
  | ' ' :: cs => (readExpr cs).map fun (value, rest) => (.returning (some value), rest)
  | cs => some (.returning none, cs)

mutual

/-- Reads a statement. -/
def readStatement : List Char → Option (Statement × List Char)
  | [] => some (.empty, [])
  | ';' :: cs => some (.empty, ';' :: cs)
  | ' ' :: cs => some (.empty, ' ' :: cs)
  | '{' :: ' ' :: cs => (readBlock cs).map fun (statements, rest) => (.block statements, rest)
  | cs =>
    let (w, rest) := word cs
    if w = "if" then
      if _h : rest.length < cs.length then readIf rest else none
    else if w = "return" then readReturn rest
    else (readExpr cs).map fun (e, rest) => (.expression e, rest)
termination_by cs => (cs.length, 2)

/-- Reads what follows the word `if`. -/
def readIf : List Char → Option (Statement × List Char)
  | ' ' :: '(' :: cs =>
    match readExpr cs with
    | some (condition, ')' :: ' ' :: rest) =>
      if _h : rest.length < cs.length then
        match readStatement rest with
        | some (thenBranch, rest) =>
          match thenBranch.elseSeparator.toList.isPrefixOf? rest with
          | some rest =>
            if _h : rest.length < cs.length then
              (readStatement rest).map fun (elseBranch, rest) =>
                (.ifElse { expr := condition } thenBranch elseBranch, rest)
            else none
          | none => some (.ifElse { expr := condition } thenBranch .empty, rest)
        | none => none
      else none
    | _ => none
  | _ => none
termination_by cs => (cs.length, 1)

/-- Reads the statements of a block with the brace behind them. -/
def readBlock : List Char → Option (List Statement × List Char)
  | ' ' :: '}' :: cs => some ([], cs)
  | cs => readStatements cs
termination_by cs => (cs.length, 4)

/-- Reads one or more statements of a block with the brace behind them. -/
def readStatements (cs : List Char) : Option (List Statement × List Char) :=
  match readStatement cs with
  | some (s, ' ' :: '}' :: rest) => some ([s], rest)
  | some (s, ';' :: ' ' :: rest) =>
    if _h : rest.length < cs.length then
      (readStatements rest).map fun (statements, rest) => (s :: statements, rest)
    else none
  | _ => none
termination_by (cs.length, 3)

end

end Reader

end StatementTree
