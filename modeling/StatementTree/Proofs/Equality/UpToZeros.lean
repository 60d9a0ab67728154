import Mathlib.Tactic.Tauto
import StatementTree.Proofs.Equality.Numbers

/-!
# What equality of trees means

Two trees are equal when neither holds a NaN and they become the same tree once every negative
zero is replaced by the positive one. The only things that equality overlooks are the signs of
zeros, and a NaN is the only thing that keeps a tree from being equal to itself, also where both
sides are one and the same tree.
-/

namespace StatementTree

open Binary64 (unsignedZero)

/-- Literals are equal when neither is NaN and they differ in the sign of a zero at most. -/
theorem Literal.beq_iff (a b : Literal) :
    a.beq b = true ↔ NaNFree a.floats ∧ NaNFree b.floats ∧
      a.mapFloats unsignedZero = b.mapFloats unsignedZero := by
  unfold beq
  cases a <;> cases b <;> simp [floats, mapFloats, Binary64.beq_iff_unsignedZero]

namespace Expr

/-- Arguments are compared one by one, so they are equal when the expressions are. -/
private theorem beqArgs_iff {xs : List Expr}
    (h : ∀ x ∈ xs, ∀ y, x.beq y = true ↔ NaNFree x.floats ∧ NaNFree y.floats ∧
      x.mapFloats unsignedZero = y.mapFloats unsignedZero) (ys : List Expr) :
    beqArgs xs ys = true ↔ NaNFree (floatsAll xs) ∧ NaNFree (floatsAll ys) ∧
      mapFloatsAll unsignedZero xs = mapFloatsAll unsignedZero ys := by
  induction xs generalizing ys with
  | nil => cases ys <;> simp [beqArgs, floatsAll, mapFloatsAll]
  | cons x xs ih =>
    cases ys with
    | nil => simp [beqArgs, mapFloatsAll]
    | cons y ys =>
      have hxs := ih (fun e he => h e (List.mem_cons_of_mem _ he)) ys
      simp only [beqArgs, floatsAll, mapFloatsAll, Bool.and_eq_true, nanFree_append,
        List.cons.injEq, h x (by simp) y, hxs]
      tauto

/-- Expressions are equal when neither holds a NaN and they are the same up to the signs of
zeros. -/
theorem beq_iff (a b : Expr) :
    a.beq b = true ↔ NaNFree a.floats ∧ NaNFree b.floats ∧
      a.mapFloats unsignedZero = b.mapFloats unsignedZero := by
  -- Expressions of different kinds are neither equal nor the same after any replacement.
  induction a generalizing b with
  | var ident => cases b <;> simp [beq, floats, mapFloats]
  | constant value =>
    cases b with
    | constant other =>
      have hvalue : (value == other) = value.beq other := rfl
      simp [beq, floats, mapFloats, hvalue, Literal.beq_iff]
    | _ => simp [beq, mapFloats]
  | call method args ih =>
    cases b with
    | call other others =>
      simp only [beq, floats, mapFloats, Bool.and_eq_true, decide_eq_true_eq, call.injEq,
        beqArgs_iff ih]
      tauto
    | _ => simp [beq, mapFloats]
  | methodCall receiver method args ihreceiver ihargs =>
    cases b with
    | methodCall target other others =>
      simp only [beq, floats, mapFloats, Bool.and_eq_true, decide_eq_true_eq, nanFree_append,
        methodCall.injEq, ihreceiver, beqArgs_iff ihargs]
      tauto
    | _ => simp [beq, mapFloats]
  | binary op left right ihleft ihright =>
    cases b with
    | binary other l r =>
      simp only [beq, floats, mapFloats, Bool.and_eq_true, decide_eq_true_eq, nanFree_append,
        binary.injEq, ihleft, ihright]
      tauto
    | _ => simp [beq, mapFloats]
  | not operand ih =>
    cases b with
    | not other => simp [beq, floats, mapFloats, ih]
    | _ => simp [beq, mapFloats]
  | paren inner ih =>
    cases b with
    | paren other => simp [beq, floats, mapFloats, ih]
    | _ => simp [beq, mapFloats]

end Expr

/-- Conditions are equal when neither has a NaN and they differ in the signs of zeros at most. -/
theorem Condition.beq_iff (a b : Condition) :
    a.beq b = true ↔ NaNFree a.floats ∧ NaNFree b.floats ∧
      a.mapFloats unsignedZero = b.mapFloats unsignedZero := by
  have hexpr : (a.expr == b.expr) = a.expr.beq b.expr := rfl
  simp only [beq, floats, mapFloats, hexpr, Bool.and_eq_true, decide_eq_true_eq, mk.injEq,
    Expr.beq_iff]
  tauto

namespace Statement

/-- Statements in lists are compared one by one, so the lists are equal when the statements are. -/
private theorem beqAll_iff {ss : List Statement}
    (h : ∀ s ∈ ss, ∀ t, s.beq t = true ↔ NaNFree s.floats ∧ NaNFree t.floats ∧
      s.mapFloats unsignedZero = t.mapFloats unsignedZero) (ts : List Statement) :
    beqAll ss ts = true ↔ NaNFree (floatsAll ss) ∧ NaNFree (floatsAll ts) ∧
      mapFloatsAll unsignedZero ss = mapFloatsAll unsignedZero ts := by
  induction ss generalizing ts with
  | nil => cases ts <;> simp [beqAll, floatsAll, mapFloatsAll]
  | cons s ss ih =>
    cases ts with
    | nil => simp [beqAll, mapFloatsAll]
    | cons t ts =>
      have hss := ih (fun u hu => h u (List.mem_cons_of_mem _ hu)) ts
      simp only [beqAll, floatsAll, mapFloatsAll, Bool.and_eq_true, nanFree_append,
        List.cons.injEq, h s (by simp) t, hss]
      tauto

/-- Returns are equal when both lack a value or have equal ones, and stand at the same place. -/
private theorem beq_returning_iff (a b : Option Expr) (p q : Span) :
    (a == b && p = q) = true ↔
      NaNFree (returning a p).floats ∧ NaNFree (returning b q).floats ∧
        a.map (Expr.mapFloats unsignedZero) = b.map (Expr.mapFloats unsignedZero) ∧ p = q := by
  cases a with
  | none => cases b <;> simp [floats]
  | some a =>
    cases b with
    | none => simp [floats]
    | some b =>
      have hvalue : (some a == some b) = a.beq b := rfl
      simp only [floats, hvalue, Option.map_some, Option.some.injEq, Bool.and_eq_true,
        decide_eq_true_eq, Expr.beq_iff]
      tauto

/-- Statements are equal when neither holds a NaN and they are the same up to the signs of
zeros. -/
theorem beq_iff (a b : Statement) :
    a.beq b = true ↔ NaNFree a.floats ∧ NaNFree b.floats ∧
      a.mapFloats unsignedZero = b.mapFloats unsignedZero := by
  induction a generalizing b with
  | ifElse condition thenBranch elseBranch span ihthen ihelse =>
    cases b with
    | ifElse other otherThen otherElse otherSpan =>
      have hcondition : (condition == other) = condition.beq other := rfl
      simp only [beq, floats, mapFloats, hcondition, Bool.and_eq_true, decide_eq_true_eq,
        nanFree_append, ifElse.injEq, Condition.beq_iff, ihthen, ihelse]
      tauto
    | _ => simp [beq, mapFloats]
  | block statements span ih =>
    cases b with
    | block others otherSpan =>
      simp only [beq, floats, mapFloats, Bool.and_eq_true, decide_eq_true_eq, block.injEq,
        beqAll_iff ih]
      tauto
    | _ => simp [beq, mapFloats]
  | expression expr span =>
    cases b with
    | expression other otherSpan =>
      have hexpr : (expr == other) = expr.beq other := rfl
      simp only [beq, floats, mapFloats, hexpr, Bool.and_eq_true, decide_eq_true_eq,
        expression.injEq, Expr.beq_iff]
      tauto
    | _ => simp [beq, mapFloats]
  | returning value span =>
    cases b with
    | returning other otherSpan =>
      rw [beq, beq_returning_iff]
      simp [mapFloats]
    | _ => simp [beq, mapFloats]
  | empty => cases b <;> simp [beq, floats, mapFloats]

end Statement

/-- The kinds of trees that are compared. -/
inductive TreeKind where
  | expr | condition | block | conditional | statement

namespace TreeKind

/-- The trees of a kind. -/
abbrev Value : TreeKind → Type
  | expr => Expr
  | condition => Condition
  | block => BlockStatement
  | conditional => IfStatement
  | statement => Statement

/-- How trees of a kind are compared. -/
def equal : (k : TreeKind) → k.Value → k.Value → Bool
  | expr => fun a b => a == b
  | condition => fun a b => a == b
  | block => fun a b => a == b
  | conditional => fun a b => a == b
  | statement => fun a b => a == b

/-- The floating-point numbers in a tree of a kind. -/
def floats : (k : TreeKind) → k.Value → List Binary64
  | expr => Expr.floats
  | condition => Condition.floats
  | block => fun node => node.toStatement.floats
  | conditional => fun node => node.toStatement.floats
  | statement => Statement.floats

/-- Replaces the floating-point numbers in a tree of a kind. -/
def mapFloats (f : Binary64 → Binary64) : (k : TreeKind) → k.Value → k.Value
  | expr => Expr.mapFloats f
  | condition => Condition.mapFloats f
  | block => BlockStatement.mapFloats f
  | conditional => IfStatement.mapFloats f
  | statement => Statement.mapFloats f

variable {k : TreeKind}

/-- Trees of one kind are equal when neither has a NaN and they differ in the signs of zeros at
most. -/
theorem equal_iff {a b : k.Value} :
    k.equal a b = true ↔ NaNFree (k.floats a) ∧ NaNFree (k.floats b) ∧
      k.mapFloats unsignedZero a = k.mapFloats unsignedZero b := by
  cases k with
  | expr => exact Expr.beq_iff a b
  | condition => exact Condition.beq_iff a b
  | block =>
    have hnode := Statement.beq_iff a.toStatement b.toStatement
    rw [← a.toStatement_mapFloats, ← b.toStatement_mapFloats,
      BlockStatement.toStatement_injective.eq_iff] at hnode
    exact hnode
  | conditional =>
    have hnode := Statement.beq_iff a.toStatement b.toStatement
    rw [← a.toStatement_mapFloats, ← b.toStatement_mapFloats,
      IfStatement.toStatement_injective.eq_iff] at hnode
    exact hnode
  | statement => exact Statement.beq_iff a b

/-- Changing the numbers in a tree twice is changing them once by both changes. -/
theorem mapFloats_mapFloats (g f : Binary64 → Binary64) (a : k.Value) :
    k.mapFloats g (k.mapFloats f a) = k.mapFloats (g ∘ f) a := by
  cases k with
  | expr => exact a.mapFloats_mapFloats g f
  | condition => exact a.mapFloats_mapFloats g f
  | block =>
    apply BlockStatement.toStatement_injective
    simp only [mapFloats, BlockStatement.toStatement_mapFloats, Statement.mapFloats_mapFloats]
  | conditional =>
    apply IfStatement.toStatement_injective
    simp only [mapFloats, IfStatement.toStatement_mapFloats, Statement.mapFloats_mapFloats]
  | statement => exact a.mapFloats_mapFloats g f

/-- Equal trees stay the same tree under every replacement that does not tell zeros apart. -/
theorem mapFloats_eq_of_equal {a b : k.Value} (h : k.equal a b = true)
    {f : Binary64 → Binary64} (hf : f .negativeZero = f .positiveZero) :
    k.mapFloats f a = k.mapFloats f b := by
  have hblind : f ∘ unsignedZero = f := by
    funext x
    by_cases hx : x = .negativeZero
    · rw [hx, hf]
      rfl
    · simp [unsignedZero, hx]
  have hsame := congrArg (k.mapFloats f) (equal_iff.mp h).2.2
  rw [mapFloats_mapFloats, mapFloats_mapFloats, hblind] at hsame
  exact hsame

/-- Two trees are equal exactly when neither holds a NaN and they are one tree, spans included,
once every negative zero in them is replaced by the positive one. So equality is symmetric and
transitive, a tree is equal to itself exactly when it holds no NaN, and trees that differ in
anything but the numbers of their floating-point literals are never equal. -/
theorem equal_iff_same_up_to_zeros (k : TreeKind) :
    (∀ a b : k.Value, k.equal a b = true ↔
      (∀ x ∈ k.floats a ++ k.floats b, x.isNaN = false) ∧
        k.mapFloats unsignedZero a = k.mapFloats unsignedZero b) ∧
      (∀ a b : k.Value, k.equal a b = k.equal b a) ∧
      (∀ a b c : k.Value, k.equal a b = true → k.equal b c = true → k.equal a c = true) ∧
      (∀ a : k.Value, k.equal a a = true ↔ ∀ x ∈ k.floats a, x.isNaN = false) ∧
      ∀ a b : k.Value, k.mapFloats (fun _ => .positiveZero) a ≠
        k.mapFloats (fun _ => .positiveZero) b → k.equal a b = false := by
  refine ⟨fun a b => ?_, fun a b => ?_, fun a b c hab hbc => ?_, fun a => ?_, fun a b hne => ?_⟩
  · have happend : (∀ x ∈ k.floats a ++ k.floats b, x.isNaN = false) ↔
        NaNFree (k.floats a) ∧ NaNFree (k.floats b) := nanFree_append _ _
    rw [equal_iff, happend, and_assoc]
  · rw [Bool.eq_iff_iff, equal_iff, equal_iff]
    constructor
    · rintro ⟨ha, hb, hsame⟩
      exact ⟨hb, ha, hsame.symm⟩
    · rintro ⟨hb, ha, hsame⟩
      exact ⟨ha, hb, hsame.symm⟩
  · obtain ⟨ha, -, hsame⟩ := equal_iff.mp hab
    obtain ⟨-, hc, hnext⟩ := equal_iff.mp hbc
    exact equal_iff.mpr ⟨ha, hc, hsame.trans hnext⟩
  · rw [equal_iff]
    exact ⟨fun h => h.1, fun h => ⟨h, h, rfl⟩⟩
  · rw [Bool.eq_false_iff]
    exact fun h => hne (mapFloats_eq_of_equal h rfl)

/-- Zeros of both signs deep inside a block are equal there and back, and a whole number differs
from the floating-point number of the same value. -/
theorem equal_iff_same_up_to_zeros_signs :
    let program (value : Literal) : Statement :=
      .block [.returning (some (.call "f" [.constant value])) ⟨3, 1⟩]
    let negative := program (.float .negativeZero)
    let positive := program (.float .positiveZero)
    let one := program (.float ⟨0x3FF0000000000000⟩)
    (statement.equal negative positive = true ∧ statement.equal positive negative = true) ∧
      statement.equal negative negative = true ∧
      statement.equal (program (.integer 1)) one = false := by
  intro program negative positive one
  obtain ⟨-, -, htrans, -, hdiffers⟩ := equal_iff_same_up_to_zeros statement
  have hthere : statement.equal negative positive = true := by decide
  have hback : statement.equal positive negative = true := by decide
  have hkind : statement.mapFloats (fun _ => .positiveZero) (program (.integer 1)) ≠
      statement.mapFloats (fun _ => .positiveZero) one := by
    intro h
    simp [mapFloats, program, one, Statement.mapFloats, Statement.mapFloatsAll, Expr.mapFloats,
      Expr.mapFloatsAll, Literal.mapFloats] at h
  exact ⟨⟨hthere, hback⟩, htrans _ _ _ hthere hback, hdiffers _ _ hkind⟩

end TreeKind

end StatementTree
