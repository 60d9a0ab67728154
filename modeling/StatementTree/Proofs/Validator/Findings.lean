import StatementTree.Validator.Basic

/-!
# What there is to be found in a program

The findings of a program are a property of its tree alone. They are the findings of its
conditionals one by one, in the order in which the conditionals begin in the text; a conditional
has at most one finding about each branch and at most one about its condition. There is no limit
on them, and nothing is remembered from one conditional to the next.
-/

namespace StatementTree

namespace Expr

/-- What is inside all parentheses around an expression. -/
def unparenthesized : Expr → Expr
  | paren inner => inner.unparenthesized
  | e => e

/-- An expression is a boolean constant exactly when there is one inside the parentheses. -/
theorem booleanConstant?_eq_some_iff {e : Expr} {value : Bool} :
    e.booleanConstant? = some value ↔ e.unparenthesized = constant (.boolean value) := by
  induction e with
  | constant literal => cases literal <;> simp [booleanConstant?, unparenthesized]
  | paren inner ih => rw [booleanConstant?, unparenthesized, ih]
  | _ => simp [booleanConstant?, unparenthesized]

end Expr

/-- The finding about a then branch that is empty. -/
def IfStatement.thenFindings (node : IfStatement) : List Finding :=
  match node.thenBranch with
  | .empty => [.emptyThenBranch node.span]
  | _ => []

/-- The finding about an else branch that is a block without statements. -/
def IfStatement.elseFindings (node : IfStatement) : List Finding :=
  match node.elseBranch with
  | .block [] span => [.emptyElseBlock span]
  | _ => []

/-- The finding about a condition that is a boolean inside any number of parentheses. -/
def Condition.findings (c : Condition) : List Finding :=
  match c.expr.unparenthesized with
  | .constant (.boolean value) => [.constantCondition value c.span]
  | _ => []

/-- There is one finding about a constant condition. -/
theorem Condition.findings_of_eq_some {c : Condition} {value : Bool}
    (h : c.constantValue? = some value) : c.findings = [.constantCondition value c.span] := by
  unfold findings
  rw [Expr.booleanConstant?_eq_some_iff.mp h]

/-- There is no finding about a condition that is not constant. -/
theorem Condition.findings_of_eq_none {c : Condition} (h : c.constantValue? = none) :
    c.findings = [] := by
  unfold findings
  split
  case h_1 value hexpr =>
    have hsome : c.constantValue? = some value := Expr.booleanConstant?_eq_some_iff.mpr hexpr
    rw [h] at hsome
    cases hsome
  case h_2 => rfl

/-- The only finding about a then branch is that it is empty. -/
theorem IfStatement.mem_thenFindings {node : IfStatement} {f : Finding} :
    f ∈ node.thenFindings ↔ node.thenBranch = .empty ∧ f = .emptyThenBranch node.span := by
  unfold thenFindings
  split
  case h_1 hthen => simp [hthen]
  case h_2 hthen => simpa using fun h => absurd h hthen

/-- The only finding about an else branch is that it is a block without statements. -/
theorem IfStatement.mem_elseFindings {node : IfStatement} {f : Finding} :
    f ∈ node.elseFindings ↔
      ∃ span, node.elseBranch = .block [] span ∧ f = .emptyElseBlock span := by
  unfold elseFindings
  split
  case h_1 span helse => simp [helse]
  case h_2 helse => simpa using fun span h => absurd h (helse span)

/-- The only finding about a condition is that it is constant. -/
theorem Condition.mem_findings {c : Condition} {f : Finding} :
    f ∈ c.findings ↔
      ∃ value, c.constantValue? = some value ∧ f = .constantCondition value c.span := by
  cases hvalue : c.constantValue? with
  | none => simp [findings_of_eq_none hvalue]
  | some value => simp [findings_of_eq_some hvalue]

/-- The findings about one conditional and not about what is inside its branches. -/
def IfStatement.findings (node : IfStatement) : List Finding :=
  node.thenFindings ++ node.elseFindings ++ node.condition.findings

namespace Statement

mutual

/-- The conditionals in a statement. A conditional comes before those in its then branch, and
they come before those in its else branch. -/
def conditionals : Statement → List IfStatement
  | ifElse condition thenBranch elseBranch span =>
    ⟨condition, thenBranch, elseBranch, span⟩ ::
      (thenBranch.conditionals ++ elseBranch.conditionals)
  | block statements _ => conditionalsAll statements
  | expression .. | returning .. | empty => []

/-- The conditionals in some statements in order. -/
def conditionalsAll : List Statement → List IfStatement
  | [] => []
  | s :: rest => s.conditionals ++ conditionalsAll rest

end

/-- The findings in a statement. -/
def findings (s : Statement) : List Finding := s.conditionals.flatMap IfStatement.findings

/-- The findings in some statements in order. -/
def findingsAll (statements : List Statement) : List Finding :=
  (conditionalsAll statements).flatMap IfStatement.findings

/-- There are no findings in an empty list. -/
@[simp] theorem findingsAll_nil : findingsAll [] = [] := by
  simp [findingsAll, conditionalsAll]

/-- The findings in the first statement come before those in the others. -/
@[simp] theorem findingsAll_cons (s : Statement) (rest : List Statement) :
    findingsAll (s :: rest) = s.findings ++ findingsAll rest := by
  simp [findingsAll, findings, conditionalsAll]

/-- The findings about a conditional come before those inside its branches. -/
theorem findings_ifElse (node : IfStatement) :
    node.toStatement.findings =
      node.findings ++ node.thenBranch.findings ++ node.elseBranch.findings := by
  simp [findings, IfStatement.toStatement, conditionals]

/-- The findings in a block are those in its statements. -/
@[simp] theorem findings_block (statements : List Statement) (span : Span) :
    (block statements span).findings = findingsAll statements := by
  simp [findings, findingsAll, conditionals]

/-- Only conditionals and blocks hold findings. -/
@[simp] theorem findings_expression (expr : Expr) (span : Span) :
    (expression expr span).findings = [] := by
  simp [findings, conditionals]

/-- There are no findings in a return. -/
@[simp] theorem findings_returning (value : Option Expr) (span : Span) :
    (returning value span).findings = [] := by
  simp [findings, conditionals]

/-- There are no findings in the empty statement. -/
@[simp] theorem findings_empty : empty.findings = [] := by simp [findings, conditionals]

end Statement

end StatementTree
