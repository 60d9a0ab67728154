import StatementTree.Proofs.Text.Spanless
import StatementTree.Proofs.Text.Word

/-!
# Reading expressions

A reader for the text of expressions, by recursive descent. An expression is an operand, or an
operator between two of them; an operand is negated any number of times, and under that it is a
name, a constant, a call or an expression in parentheses, with calls of methods chained behind.
Each part of the reader takes the longest text it can and answers what is left.
-/

namespace StatementTree

namespace Reader

/-- All operators. -/
def operators : List BinaryOp :=
  [.or, .and, .eq, .ne, .lt, .gt, .le, .ge, .add, .sub, .mul, .div, .mod]

/-- The operator at the start of a text, with a space before and behind it. -/
def operator (cs : List Char) : Option (BinaryOp × List Char) :=
  operators.findSome? fun op => ((' ' :: op.symbol.toList ++ [' ']).isPrefixOf? cs).map (op, ·)

mutual

/-- Reads an expression: an operand, or two of them around an operator. -/
def readExpr (cs : List Char) : Option (Expr × List Char) :=
  match readOperand cs with
  | some (left, rest) =>
    match operator rest with
    | some (op, rest) =>
      if _h : rest.length < cs.length then
        (readOperand rest).map fun (right, rest) => (.binary op left right, rest)
      else none
    | none => some (left, rest)
  | none => none
termination_by (cs.length, 4)

/-- Reads an operand. -/
def readOperand : List Char → Option (Expr × List Char)
  | '!' :: cs => (readOperand cs).map fun (e, rest) => (.not e, rest)
  | cs => readChain cs
termination_by cs => (cs.length, 3)

/-- Reads a chain of method calls with its first receiver. -/
def readChain (cs : List Char) : Option (Expr × List Char) :=
  match readPrimary cs with
  | some (e, rest) => if _h : rest.length < cs.length then readCalls e rest else none
  | none => none
termination_by (cs.length, 2)

/-- Reads what a chain can start with. -/
def readPrimary : List Char → Option (Expr × List Char)
  | '(' :: cs =>
    match readExpr cs with
    | some (e, ')' :: rest) => some (.paren e, rest)
    | _ => none
  | '"' :: cs =>
    (Quoted.read cs).map fun (s, rest) => (.constant (.string (String.ofList s)), rest)
  | '-' :: cs =>
    let (digits, rest) := word cs
    some (.constant (.integer (Int64.ofInt (-number digits))), rest)
  | cs =>
    match word cs with
    | (method, '(' :: rest) =>
      if _h : rest.length < cs.length then
        (readArgs rest).map fun (args, rest) => (.call method args, rest)
      else none
    | (w, rest) => some (wordExpr w, rest)
termination_by cs => (cs.length, 1)

/-- Reads the method calls behind a receiver. -/
def readCalls (receiver : Expr) : List Char → Option (Expr × List Char)
  | '.' :: cs =>
    match word cs with
    | (method, '(' :: rest) =>
      if _h : rest.length ≤ cs.length then
        match readArgs rest with
        | some (args, rest) =>
          if _h : rest.length ≤ cs.length then readCalls (.methodCall receiver method args) rest
          else none
        | none => none
      else none
    | _ => none
  | cs => some (receiver, cs)
termination_by cs => (cs.length, 0)

/-- Reads the arguments of a call with the parenthesis behind them. -/
def readArgs : List Char → Option (List Expr × List Char)
  | ')' :: cs => some ([], cs)
  | cs =>
    match readExpr cs with
    | some (e, ')' :: rest) => some ([e], rest)
    | some (e, ',' :: ' ' :: rest) =>
      if _h : rest.length < cs.length then
        (readArgs rest).map fun (args, rest) => (e :: args, rest)
      else none
    | _ => none
termination_by cs => (cs.length, 5)

end

/-- A text that does not continue a name or a constant before it. -/
def EndsPrimary (after : List Char) : Prop :=
  ∀ c ∈ after.head?, isWordChar c = false ∧ c ≠ '('

/-- A text that does not continue an operand before it. -/
def EndsOperand (after : List Char) : Prop :=
  ∀ c ∈ after.head?, isWordChar c = false ∧ c ≠ '(' ∧ c ≠ '.'

/-- A text that does not continue an expression before it. -/
structure EndsExpr (after : List Char) : Prop where
  /-- It does not continue an operand. -/
  operand : EndsOperand after
  /-- It does not start with an operator. -/
  operator : operator after = none

/-- Where a primary expression ends a word ends, too. -/
theorem EndsPrimary.word {after : List Char} (h : EndsPrimary after) : EndsWord after :=
  fun c hc => (h c hc).1

/-- Where an operand ends a primary expression ends, too. -/
theorem EndsOperand.primary {after : List Char} (h : EndsOperand after) : EndsPrimary after :=
  fun c hc => ⟨(h c hc).1, (h c hc).2.1⟩

/-- An operator is read back. -/
theorem operator_symbol (op : BinaryOp) (after : List Char) :
    operator (' ' :: (op.symbol.toList ++ ' ' :: after)) = some (op, after) := by
  cases op <;> rfl

/-- An expression may end where the text does. -/
theorem endsExpr_nil : EndsExpr [] := by
  constructor
  · simp [EndsOperand]
  · rfl

/-- An expression ends before a parenthesis, a comma and a semicolon. -/
theorem endsExpr_cons {c : Char} (hc : c = ')' ∨ c = ',' ∨ c = ';') (after : List Char) :
    EndsExpr (c :: after) := by
  rcases hc with rfl | rfl | rfl
  all_goals
    constructor
    · simp only [EndsOperand, List.head?_cons, Option.mem_some_iff]
      rintro _ rfl
      decide
    · rfl

/-- An expression ends before the end of a block. -/
theorem endsExpr_brace (after : List Char) : EndsExpr (' ' :: '}' :: after) := by
  constructor
  · simp only [EndsOperand, List.head?_cons, Option.mem_some_iff]
    rintro _ rfl
    decide
  · rfl

/-- An operand ends before an operator. -/
theorem endsOperand_space (after : List Char) : EndsOperand (' ' :: after) := by
  simp only [EndsOperand, List.head?_cons, Option.mem_some_iff]
  rintro _ rfl
  decide

/-- A name or a constant ends before a method call. -/
theorem endsPrimary_dot (after : List Char) : EndsPrimary ('.' :: after) := by
  simp only [EndsPrimary, List.head?_cons, Option.mem_some_iff]
  rintro _ rfl
  decide

end Reader

end StatementTree
