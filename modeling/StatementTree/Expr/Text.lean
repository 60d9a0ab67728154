import StatementTree.Expr.Basic

/-!
# The text of expressions

An expression is written from left to right onto what has been written before, in time linear
in its size. The text of an expression is what it writes onto nothing, and writing appends that
text whatever came before (`Expr.write_eq`), so the equations of this module describe texts by
concatenation alone.
-/

namespace StatementTree

namespace Expr

mutual

/-- Writes an expression behind `out`. -/
def write : Expr → String → String
  | var ident, out => out ++ ident.name
  | constant value, out => out ++ value.text
  | call method args, out => writeArgs args (out ++ method ++ "(") ++ ")"
  | methodCall receiver method args, out =>
    writeArgs args (receiver.write out ++ "." ++ method ++ "(") ++ ")"
  | binary op left right, out => right.write (left.write out ++ " " ++ op.symbol ++ " ")
  | not operand, out => operand.write (out ++ "!")
  | paren inner, out => inner.write (out ++ "(") ++ ")"

/-- Writes the arguments of a call behind `out`, with a comma between any two. -/
def writeArgs : List Expr → String → String
  | [], out => out
  | [arg], out => arg.write out
  | arg :: rest, out => writeArgs rest (arg.write out ++ ", ")

end

attribute [local simp] write writeArgs

/-- The canonical text of an expression. -/
def text (e : Expr) : String := e.write ""

/-- The canonical text of the arguments of a call, without the parentheses. -/
def argsText (args : List Expr) : String := writeArgs args ""

/-- Arguments are put behind what is written already, once each of them is. -/
private theorem writeArgs_append {args : List Expr}
    (h : ∀ arg ∈ args, ∀ out, arg.write out = out ++ arg.write "") (out : String) :
    writeArgs args out = out ++ writeArgs args "" := by
  induction args generalizing out with
  | nil => simp
  | cons arg rest ih =>
    cases rest with
    | nil => simpa using h arg (by simp) out
    | cons next rest =>
      have hrest := ih fun e he => h e (List.mem_cons_of_mem _ he)
      simp only [writeArgs]
      rw [hrest (arg.write out ++ ", "), hrest (arg.write "" ++ ", "), h arg (by simp) out]
      simp [String.append_assoc]

/-- Writing an expression appends its text. -/
theorem write_eq (e : Expr) (out : String) : e.write out = out ++ e.text := by
  unfold text
  induction e generalizing out with
  | var ident => simp
  | constant value => simp
  | call method args ih =>
    simp only [write]
    rw [writeArgs_append ih, writeArgs_append ih ("" ++ method ++ "(")]
    simp [String.append_assoc]
  | methodCall receiver method args ihreceiver ihargs =>
    simp only [write]
    rw [writeArgs_append ihargs,
      writeArgs_append ihargs (receiver.write "" ++ "." ++ method ++ "("), ihreceiver out]
    simp [String.append_assoc]
  | binary op left right ihleft ihright =>
    simp only [write]
    rw [ihright, ihright (left.write "" ++ " " ++ op.symbol ++ " "), ihleft out]
    simp [String.append_assoc]
  | not operand ih =>
    simp only [write]
    rw [ih, ih ("" ++ "!")]
    simp [String.append_assoc]
  | paren inner ih =>
    simp only [write]
    rw [ih, ih ("" ++ "(")]
    simp [String.append_assoc]

/-- Writing arguments appends their text. -/
theorem writeArgs_eq (args : List Expr) (out : String) :
    writeArgs args out = out ++ argsText args :=
  writeArgs_append (fun arg _ out => write_eq arg out) out

/-- An empty list of arguments is written as nothing. -/
@[simp] theorem argsText_nil : argsText [] = "" := by simp [argsText]

/-- One argument is written without a separator. -/
@[simp] theorem argsText_singleton (arg : Expr) : argsText [arg] = arg.text := by
  simp [argsText, text]

/-- A comma stands between two neighbouring arguments. -/
@[simp] theorem argsText_cons_cons (arg next : Expr) (rest : List Expr) :
    argsText (arg :: next :: rest) = arg.text ++ ", " ++ argsText (next :: rest) := by
  rw [argsText, writeArgs, writeArgs_eq, write_eq]
  · simp [String.append_assoc]
  · simp

/-- A variable is written as its name. -/
@[simp] theorem text_var (ident : Ident) : (var ident).text = ident.name := by
  simp [text]

/-- A constant is written as its value. -/
@[simp] theorem text_constant (value : Literal) : (constant value).text = value.text := by
  simp [text]

/-- A call is written as its name and its arguments in parentheses. -/
@[simp] theorem text_call (method : String) (args : List Expr) :
    (call method args).text = method ++ "(" ++ argsText args ++ ")" := by
  simp [text, writeArgs_eq]

/-- A method call is written as a call behind its receiver and a dot. -/
@[simp] theorem text_methodCall (receiver : Expr) (method : String) (args : List Expr) :
    (methodCall receiver method args).text =
      receiver.text ++ "." ++ method ++ "(" ++ argsText args ++ ")" := by
  simp [text, writeArgs_eq]

/-- A binary expression is written as its operands around its symbol, without parentheses. -/
@[simp] theorem text_binary (op : BinaryOp) (left right : Expr) :
    (binary op left right).text = left.text ++ " " ++ op.symbol ++ " " ++ right.text := by
  rw [text, write, write_eq right, write_eq left]
  simp

/-- A negation is written as a mark and its operand. -/
@[simp] theorem text_not (operand : Expr) : (not operand).text = "!" ++ operand.text := by
  rw [text, write, write_eq operand]
  simp

/-- A parenthesised expression is written between parentheses. -/
@[simp] theorem text_paren (inner : Expr) : (paren inner).text = "(" ++ inner.text ++ ")" := by
  rw [text, write, write_eq inner]
  simp [String.append_assoc]

end Expr

end StatementTree
