import StatementTree.Statement.Basic

/-!
# The names in a program

Names of variables and names of called methods are printed as they stand, so what is known of a
text often depends on them, and on nothing else that is free. The predicates of this module say
that all of them satisfy given conditions.
-/

namespace StatementTree

namespace Expr

mutual

/-- Whether the names of all variables and of all methods in an expression satisfy the given
conditions. -/
def Labelled (name method : String → Prop) : Expr → Prop
  | var ident => name ident.name
  | constant _ => True
  | call m args => method m ∧ LabelledAll name method args
  | methodCall receiver m args =>
    receiver.Labelled name method ∧ method m ∧ LabelledAll name method args
  | binary _ left right => left.Labelled name method ∧ right.Labelled name method
  | not operand => operand.Labelled name method
  | paren inner => inner.Labelled name method

/-- Whether this holds of all expressions of a list. -/
def LabelledAll (name method : String → Prop) : List Expr → Prop
  | [] => True
  | e :: rest => e.Labelled name method ∧ LabelledAll name method rest

end

/-- The labels of arguments are those of each argument. -/
theorem labelledAll_iff {name method : String → Prop} {args : List Expr} :
    LabelledAll name method args ↔ ∀ arg ∈ args, arg.Labelled name method := by
  induction args with
  | nil => simp [LabelledAll]
  | cons e rest ih => simp [LabelledAll, ih]

/-- Names that satisfy a condition satisfy every weaker one. -/
theorem Labelled.mono {name method weakerName weakerMethod : String → Prop}
    (hname : ∀ text, name text → weakerName text)
    (hmethod : ∀ text, method text → weakerMethod text) {e : Expr}
    (h : e.Labelled name method) : e.Labelled weakerName weakerMethod := by
  induction e with
  | var ident => exact hname _ h
  | constant value => trivial
  | call m args ih =>
    exact ⟨hmethod _ h.1, labelledAll_iff.mpr fun arg harg =>
      ih arg harg (labelledAll_iff.mp h.2 arg harg)⟩
  | methodCall receiver m args ihreceiver ihargs =>
    exact ⟨ihreceiver h.1, hmethod _ h.2.1, labelledAll_iff.mpr fun arg harg =>
      ihargs arg harg (labelledAll_iff.mp h.2.2 arg harg)⟩
  | binary op left right ihleft ihright => exact ⟨ihleft h.1, ihright h.2⟩
  | not operand ih => exact ih h
  | paren inner ih => exact ih h

end Expr

namespace Statement

mutual

/-- Whether the names of all variables and of all methods in a statement satisfy the given
conditions. -/
def Labelled (name method : String → Prop) : Statement → Prop
  | ifElse condition thenBranch elseBranch _ =>
    condition.expr.Labelled name method ∧ thenBranch.Labelled name method ∧
      elseBranch.Labelled name method
  | block statements _ => LabelledAll name method statements
  | expression expr _ => expr.Labelled name method
  | returning none _ => True
  | returning (some value) _ => value.Labelled name method
  | empty => True

/-- Whether this holds of all statements of a list. -/
def LabelledAll (name method : String → Prop) : List Statement → Prop
  | [] => True
  | s :: rest => s.Labelled name method ∧ LabelledAll name method rest

end

/-- The labels of some statements are those of each statement. -/
theorem labelledAll_iff {name method : String → Prop} {statements : List Statement} :
    LabelledAll name method statements ↔ ∀ s ∈ statements, s.Labelled name method := by
  induction statements with
  | nil => simp [LabelledAll]
  | cons s rest ih => simp [LabelledAll, ih]

/-- Names that satisfy a condition satisfy every weaker one. -/
theorem Labelled.mono {name method weakerName weakerMethod : String → Prop}
    (hname : ∀ text, name text → weakerName text)
    (hmethod : ∀ text, method text → weakerMethod text) {s : Statement}
    (h : s.Labelled name method) : s.Labelled weakerName weakerMethod := by
  induction s with
  | ifElse condition thenBranch elseBranch span ihthen ihelse =>
    exact ⟨h.1.mono hname hmethod, ihthen h.2.1, ihelse h.2.2⟩
  | block statements span ih =>
    exact labelledAll_iff.mpr fun s hs => ih s hs (labelledAll_iff.mp h s hs)
  | expression expr span => exact Expr.Labelled.mono hname hmethod h
  | returning value span =>
    cases value with
    | none => trivial
    | some value => exact Expr.Labelled.mono hname hmethod h
  | empty => trivial

end Statement

end StatementTree
