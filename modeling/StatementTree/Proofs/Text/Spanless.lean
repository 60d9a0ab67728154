import StatementTree.Proofs.Text.Pieces

/-!
# Trees up to spans

Two trees are equal up to spans when they become the same tree once every span in them is
replaced by the empty span at offset zero. Taking the spans out changes neither the text of a tree
nor whether a condition is constant.
-/

namespace StatementTree

/-- A name without its place. -/
def Ident.spanless (ident : Ident) : Ident := { ident with span := {} }

namespace Expr

mutual

/-- An expression without the places of its names. -/
def spanless : Expr → Expr
  | var ident => var ident.spanless
  | constant value => constant value
  | call method args => call method (spanlessAll args)
  | methodCall receiver method args => methodCall receiver.spanless method (spanlessAll args)
  | binary op left right => binary op left.spanless right.spanless
  | not operand => not operand.spanless
  | paren inner => paren inner.spanless

/-- Expressions without the places of their names. -/
def spanlessAll : List Expr → List Expr
  | [] => []
  | e :: rest => e.spanless :: spanlessAll rest

end

/-- Arguments lose their spans one by one. -/
theorem spanlessAll_eq_map (args : List Expr) : spanlessAll args = args.map spanless := by
  induction args with
  | nil => rfl
  | cons e rest ih => rw [spanlessAll, ih, List.map_cons]

/-- Taking the spans out of the arguments of a call leaves their text when it does so for each of
them. -/
private theorem argsText_spanlessAll {args : List Expr}
    (h : ∀ arg ∈ args, arg.spanless.text = arg.text) :
    argsText (spanlessAll args) = argsText args := by
  have hargs : args.map (text ∘ spanless) = args.map text := List.map_congr_left h
  rw [argsText_eq_intercalate, argsText_eq_intercalate, spanlessAll_eq_map, List.map_map, hargs]

/-- The text of an expression does not depend on spans. -/
theorem text_spanless (e : Expr) : e.spanless.text = e.text := by
  induction e with
  | var ident => simp [spanless, Ident.spanless]
  | constant value => rfl
  | call method args ih => simp [spanless, argsText_spanlessAll ih]
  | methodCall receiver method args ihreceiver ihargs =>
    simp [spanless, ihreceiver, argsText_spanlessAll ihargs]
  | binary op left right ihleft ihright => simp [spanless, ihleft, ihright]
  | not operand ih => simp [spanless, ih]
  | paren inner ih => simp [spanless, ih]

/-- A constant is one without spans, too. -/
theorem booleanConstant?_spanless (e : Expr) :
    e.spanless.booleanConstant? = e.booleanConstant? := by
  induction e with
  | paren inner ih => simpa [spanless, booleanConstant?] using ih
  | constant value => rfl
  | _ => simp [spanless, booleanConstant?]

end Expr

/-- A condition without its place and without those of the names in it. -/
def Condition.spanless (c : Condition) : Condition := { expr := c.expr.spanless }

/-- Spans are not written in a condition. -/
theorem Condition.text_spanless (c : Condition) : c.spanless.text = c.text :=
  c.expr.text_spanless

/-- Spans do not decide whether a condition is constant. -/
theorem Condition.constantValue?_spanless (c : Condition) :
    c.spanless.constantValue? = c.constantValue? :=
  c.expr.booleanConstant?_spanless

namespace Statement

mutual

/-- A statement without any places. -/
def spanless : Statement → Statement
  | ifElse condition thenBranch elseBranch _ =>
    ifElse condition.spanless thenBranch.spanless elseBranch.spanless
  | block statements _ => block (spanlessAll statements)
  | expression expr _ => expression expr.spanless
  | returning value _ => returning (value.map Expr.spanless)
  | empty => empty

/-- Statements without any places. -/
def spanlessAll : List Statement → List Statement
  | [] => []
  | s :: rest => s.spanless :: spanlessAll rest

end

/-- Statements lose their spans one by one. -/
theorem spanlessAll_eq_map (statements : List Statement) :
    spanlessAll statements = statements.map spanless := by
  induction statements with
  | nil => rfl
  | cons s rest ih => rw [spanlessAll, ih, List.map_cons]

/-- A block is one without spans, too. -/
theorem isBlock_spanless (s : Statement) : s.spanless.isBlock = s.isBlock := by
  cases s <;> rfl

/-- The empty statement is empty without spans, too, and no other statement becomes so. -/
theorem isEmpty_spanless (s : Statement) : s.spanless.isEmpty = s.isEmpty := by
  cases s <;> rfl

/-- Spans do not decide what stands in front of an else branch. -/
theorem elseSeparator_spanless (s : Statement) : s.spanless.elseSeparator = s.elseSeparator := by
  rw [elseSeparator, isBlock_spanless]
  rfl

/-- The text of a statement does not depend on spans. -/
theorem text_spanless (s : Statement) : s.spanless.text = s.text := by
  induction s with
  | ifElse condition thenBranch elseBranch span ihthen ihelse =>
    rw [spanless, text_ifElse_elseText, text_ifElse_elseText, condition.text_spanless, ihthen,
      elseText, isEmpty_spanless, isBlock_spanless, ihelse]
    rfl
  | block statements span ih =>
    have htexts : statements.map (text ∘ spanless) = statements.map text := List.map_congr_left ih
    rw [spanless, text_block, text_block, joinedText_eq_intercalate, joinedText_eq_intercalate,
      spanlessAll_eq_map, List.map_map, htexts]
  | expression expr span => simp [spanless, expr.text_spanless]
  | returning value span =>
    cases value with
    | none => rfl
    | some value => simp [spanless, value.text_spanless]
  | empty => rfl

end Statement

end StatementTree
