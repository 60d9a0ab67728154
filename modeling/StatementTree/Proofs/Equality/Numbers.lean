import StatementTree.Proofs.Wire.Floats
import StatementTree.Statement.Equality

/-!
# Trees up to the signs of zeros

Two floating-point numbers that are no NaN have equal values when they are one pattern, or when
they are the two zeros. The numbers in a tree can be replaced while everything else stays as it is:
with every negative zero replaced by the positive one, equal values are equal patterns, and with
all numbers replaced by one of them, what is left is the tree apart from its numbers.
-/

namespace StatementTree

namespace Binary64

/-- Zero without a sign. -/
def positiveZero : Binary64 := ⟨0⟩

/-- Zero with a minus sign. -/
def negativeZero : Binary64 := ⟨0x8000000000000000⟩

/-- The same value, which is positive when it is a zero. -/
def unsignedZero (x : Binary64) : Binary64 := if x = negativeZero then positiveZero else x

/-- There are two zeros. -/
theorem isZero_iff {x : Binary64} : x.isZero = true ↔ x = positiveZero ∨ x = negativeZero := by
  obtain ⟨bits⟩ := x
  have hbits : bits.toNat < 2 ^ (64 : Nat) := bits.toNat_lt
  have hpositive : (⟨bits⟩ : Binary64) = positiveZero ↔ bits.toNat = 0 := by
    rw [positiveZero, mk.injEq, ← UInt64.toNat_inj]
    rfl
  have hnegative : (⟨bits⟩ : Binary64) = negativeZero ↔ bits.toNat = 2 ^ (63 : Nat) := by
    rw [negativeZero, mk.injEq, ← UInt64.toNat_inj]
    rfl
  have hzero : (⟨bits⟩ : Binary64).isZero = true ↔ bits.toNat % 2 ^ (63 : Nat) = 0 :=
    decide_eq_true_iff
  rw [hpositive, hnegative, hzero]
  omega

/-- Both zeros become the positive one. -/
theorem unsignedZero_of_isZero {x : Binary64} (h : x.isZero = true) :
    x.unsignedZero = positiveZero := by
  rcases isZero_iff.mp h with rfl | rfl <;> rfl

/-- Every other number stays as it is. -/
theorem unsignedZero_of_not_isZero {x : Binary64} (h : ¬ x.isZero = true) :
    x.unsignedZero = x := by
  rw [unsignedZero, if_neg]
  exact fun hx => h (isZero_iff.mpr (.inr hx))

/-- Numbers have equal values when neither is a NaN and their patterns agree up to the sign of a
zero. -/
theorem beq_iff_unsignedZero {x y : Binary64} :
    (x == y) = true ↔
      x.isNaN = false ∧ y.isNaN = false ∧ x.unsignedZero = y.unsignedZero := by
  have hne {z : Binary64} (hz : ¬ z.isZero = true) : z ≠ positiveZero :=
    fun h => hz (isZero_iff.mpr (.inl h))
  rw [beq_iff]
  refine and_congr_right fun _ => and_congr_right fun _ => ?_
  by_cases hx : x.isZero = true
  · by_cases hy : y.isZero = true
    · simp [hx, hy, unsignedZero_of_isZero]
    · have hxy : x ≠ y := by
        rintro rfl
        exact hy hx
      simp [hx, hy, hxy, unsignedZero_of_isZero, unsignedZero_of_not_isZero, (hne hy).symm]
  · by_cases hy : y.isZero = true
    · have hxy : x ≠ y := by
        rintro rfl
        exact hx hy
      simp [hx, hy, hxy, unsignedZero_of_isZero, unsignedZero_of_not_isZero, hne hx]
    · simp [hx, hy, unsignedZero_of_not_isZero]

end Binary64

/-- Whether none of some floating-point numbers is a NaN. -/
def NaNFree (floats : List Binary64) : Prop := ∀ x ∈ floats, x.isNaN = false

/-- Whether there is a NaN among some numbers can be computed. -/
instance (floats : List Binary64) : Decidable (NaNFree floats) :=
  inferInstanceAs (Decidable (∀ x ∈ floats, x.isNaN = false))

/-- There is no NaN in an empty list. -/
@[simp] theorem nanFree_nil : NaNFree [] := by simp [NaNFree]

/-- A list of one number is free of NaN when the number is no NaN. -/
@[simp] theorem nanFree_singleton (x : Binary64) : NaNFree [x] ↔ x.isNaN = false := by
  simp [NaNFree]

/-- Joined lists are free of NaN when both are. -/
@[simp] theorem nanFree_append (xs ys : List Binary64) :
    NaNFree (xs ++ ys) ↔ NaNFree xs ∧ NaNFree ys := by
  simp [NaNFree, or_imp, forall_and]

/-- Replaces the number of a floating-point literal. -/
def Literal.mapFloats (f : Binary64 → Binary64) : Literal → Literal
  | float x => float (f x)
  | value => value

/-- Changing the number in a literal twice is changing it once by both changes. -/
theorem Literal.mapFloats_mapFloats (g f : Binary64 → Binary64) (value : Literal) :
    (value.mapFloats f).mapFloats g = value.mapFloats (g ∘ f) := by
  cases value <;> rfl

namespace Expr

mutual

/-- Replaces the numbers of all floating-point literals in an expression. -/
def mapFloats (f : Binary64 → Binary64) : Expr → Expr
  | var ident => var ident
  | constant value => constant (value.mapFloats f)
  | call method args => call method (mapFloatsAll f args)
  | methodCall receiver method args =>
    methodCall (receiver.mapFloats f) method (mapFloatsAll f args)
  | binary op left right => binary op (left.mapFloats f) (right.mapFloats f)
  | not operand => not (operand.mapFloats f)
  | paren inner => paren (inner.mapFloats f)

/-- Replaces the numbers of all floating-point literals in some expressions. -/
def mapFloatsAll (f : Binary64 → Binary64) : List Expr → List Expr
  | [] => []
  | e :: rest => e.mapFloats f :: mapFloatsAll f rest

end

/-- Arguments follow when every one of them can be changed at once. -/
private theorem mapFloatsAll_mapFloatsAll {g f : Binary64 → Binary64} {args : List Expr}
    (h : ∀ arg ∈ args, (arg.mapFloats f).mapFloats g = arg.mapFloats (g ∘ f)) :
    mapFloatsAll g (mapFloatsAll f args) = mapFloatsAll (g ∘ f) args := by
  induction args with
  | nil => rfl
  | cons e rest ih =>
    simp only [mapFloatsAll]
    rw [h e (by simp), ih fun arg harg => h arg (List.mem_cons_of_mem _ harg)]

/-- Changing the numbers in an expression twice is changing them once by both changes. -/
theorem mapFloats_mapFloats (g f : Binary64 → Binary64) (e : Expr) :
    (e.mapFloats f).mapFloats g = e.mapFloats (g ∘ f) := by
  induction e with
  | var ident => rfl
  | constant value => simp [mapFloats, Literal.mapFloats_mapFloats]
  | call method args ih => simp [mapFloats, mapFloatsAll_mapFloatsAll ih]
  | methodCall receiver method args ihreceiver ihargs =>
    simp [mapFloats, ihreceiver, mapFloatsAll_mapFloatsAll ihargs]
  | binary op left right ihleft ihright => simp [mapFloats, ihleft, ihright]
  | not operand ih => simp [mapFloats, ih]
  | paren inner ih => simp [mapFloats, ih]

end Expr

/-- Replaces the numbers of all floating-point literals in a condition. -/
def Condition.mapFloats (f : Binary64 → Binary64) (c : Condition) : Condition :=
  { c with expr := c.expr.mapFloats f }

/-- Changing the numbers in a condition twice is changing them once by both changes. -/
theorem Condition.mapFloats_mapFloats (g f : Binary64 → Binary64) (c : Condition) :
    (c.mapFloats f).mapFloats g = c.mapFloats (g ∘ f) := by
  simp [mapFloats, Expr.mapFloats_mapFloats]

namespace Statement

mutual

/-- Replaces the numbers of all floating-point literals in a statement. -/
def mapFloats (f : Binary64 → Binary64) : Statement → Statement
  | ifElse condition thenBranch elseBranch span =>
    ifElse (condition.mapFloats f) (thenBranch.mapFloats f) (elseBranch.mapFloats f) span
  | block statements span => block (mapFloatsAll f statements) span
  | expression expr span => expression (expr.mapFloats f) span
  | returning value span => returning (value.map (Expr.mapFloats f)) span
  | empty => empty

/-- Replaces the numbers of all floating-point literals in some statements. -/
def mapFloatsAll (f : Binary64 → Binary64) : List Statement → List Statement
  | [] => []
  | s :: rest => s.mapFloats f :: mapFloatsAll f rest

end

/-- Statements in a list follow when every one of them can be changed at once. -/
private theorem mapFloatsAll_mapFloatsAll {g f : Binary64 → Binary64} {statements : List Statement}
    (h : ∀ s ∈ statements, (s.mapFloats f).mapFloats g = s.mapFloats (g ∘ f)) :
    mapFloatsAll g (mapFloatsAll f statements) = mapFloatsAll (g ∘ f) statements := by
  induction statements with
  | nil => rfl
  | cons s rest ih =>
    simp only [mapFloatsAll]
    rw [h s (by simp), ih fun t ht => h t (List.mem_cons_of_mem _ ht)]

/-- Changing the numbers in a statement twice is changing them once by both changes. -/
theorem mapFloats_mapFloats (g f : Binary64 → Binary64) (s : Statement) :
    (s.mapFloats f).mapFloats g = s.mapFloats (g ∘ f) := by
  induction s with
  | ifElse condition thenBranch elseBranch span ihthen ihelse =>
    simp [mapFloats, Condition.mapFloats_mapFloats, ihthen, ihelse]
  | block statements span ih => simp [mapFloats, mapFloatsAll_mapFloatsAll ih]
  | expression expr span => simp [mapFloats, Expr.mapFloats_mapFloats]
  | returning value span =>
    cases value <;> simp [mapFloats, Expr.mapFloats_mapFloats]
  | empty => rfl

end Statement

/-- Replaces the numbers of all floating-point literals in a conditional. -/
def IfStatement.mapFloats (f : Binary64 → Binary64) (node : IfStatement) : IfStatement :=
  { node with
    condition := node.condition.mapFloats f
    thenBranch := node.thenBranch.mapFloats f
    elseBranch := node.elseBranch.mapFloats f }

/-- The numbers of a conditional are changed alike in the node and in the statement. -/
theorem IfStatement.toStatement_mapFloats (f : Binary64 → Binary64) (node : IfStatement) :
    (node.mapFloats f).toStatement = node.toStatement.mapFloats f := by
  simp [mapFloats, toStatement, Statement.mapFloats]

/-- Replaces the numbers of all floating-point literals in a block. -/
def BlockStatement.mapFloats (f : Binary64 → Binary64) (node : BlockStatement) : BlockStatement :=
  { node with statements := Statement.mapFloatsAll f node.statements }

/-- The numbers of a block are changed alike in the node and in the statement. -/
theorem BlockStatement.toStatement_mapFloats (f : Binary64 → Binary64) (node : BlockStatement) :
    (node.mapFloats f).toStatement = node.toStatement.mapFloats f := by
  simp [mapFloats, toStatement, Statement.mapFloats]

end StatementTree
