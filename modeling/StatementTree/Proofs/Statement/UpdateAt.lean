import StatementTree.Proofs.Visitor.Occurrences
import StatementTree.Statement.Edit

/-!
# Editing in place

A statement inside a program is reached by its address and can be changed there while everything
beside it and above it stays. An edit of a conditional becomes in this way an edit of the program
that the conditional is part of.
-/

namespace StatementTree

open Visitor (WorkItem)

namespace Statement

/-- The way from a statement down to the target, which is inside it. A branch of a conditional is
its part 1 or 2, and a statement of a block is the part with its number. -/
inductive Reaches (target : Statement) : Statement → List Nat → Prop
  /-- The target is the statement itself. -/
  | here : Reaches target target []
  /-- The way goes on in the then branch. -/
  | thenBranch {condition : Condition} {branch elseBranch : Statement} {span : Span}
    {address : List Nat} (h : Reaches target branch address) :
    Reaches target (ifElse condition branch elseBranch span) (1 :: address)
  /-- The way goes on in the else branch. -/
  | elseBranch {condition : Condition} {thenBranch branch : Statement} {span : Span}
    {address : List Nat} (h : Reaches target branch address) :
    Reaches target (ifElse condition thenBranch branch span) (2 :: address)
  /-- The way goes on in a statement of the block. -/
  | inBlock {statements : List Statement} {i : Nat} {part : Statement} {span : Span}
    {address : List Nat} (hpart : statements[i]? = some part) (h : Reaches target part address) :
    Reaches target (block statements span) (i :: address)

/-- The ways down are the addresses. -/
theorem reaches_iff {target s : Statement} {address : List Nat} :
    Reaches target s address ↔
      (WorkItem.statement s).partAt? address = some (.statement target) := by
  constructor
  · intro h
    induction h with
    | here => rfl
    | thenBranch _ ih => exact ih
    | elseBranch _ ih => exact ih
    | inBlock hpart _ ih =>
      simpa [WorkItem.partAt?, WorkItem.parts, WorkItem.ofBlock, hpart] using ih
  · intro h
    induction address generalizing s with
    | nil =>
      obtain rfl : s = target := WorkItem.statement.inj (Option.some.inj h)
      exact .here
    | cons i address ih =>
      obtain ⟨part, hpart, hinner⟩ := Option.bind_eq_some_iff.mp h
      cases s with
      | ifElse condition thenBranch elseBranch span =>
        rcases i with _ | _ | _ | i
        · -- This part is the condition, and no statement stands in it.
          obtain rfl : .condition condition = part := Option.some.inj hpart
          cases address <;> cases hinner
        · obtain rfl : .statement thenBranch = part := Option.some.inj hpart
          exact .thenBranch (ih hinner)
        · obtain rfl : .statement elseBranch = part := Option.some.inj hpart
          exact .elseBranch (ih hinner)
        · cases hpart
      | block statements span =>
        simp only [WorkItem.parts, WorkItem.ofBlock, List.getElem?_map] at hpart
        obtain ⟨part, hget, rfl⟩ := Option.map_eq_some_iff.mp hpart
        exact .inBlock hget (ih hinner)
      | expression expr span => cases hpart
      | returning value span => cases hpart
      | empty => cases hpart

/-- A statement that stands in a program is inside one of the statements of the program. -/
theorem exists_reaches_of_placedAt? {program : List Statement} {address : List Nat}
    {target : Statement} (h : WorkItem.placedAt? program address = some (.statement target)) :
    ∃ i inner s, address = i :: inner ∧ program[i]? = some s ∧ Reaches target s inner := by
  cases address with
  | nil => cases h
  | cons i inner =>
    obtain ⟨item, hitem, htarget⟩ := Option.bind_eq_some_iff.mp h
    rw [List.getElem?_map] at hitem
    obtain ⟨s, hs, rfl⟩ := Option.map_eq_some_iff.mp hitem
    exact ⟨i, inner, s, rfl, hs, reaches_iff.mpr htarget⟩

/-- Changes the statement at an address of a statement, where one stands. -/
def updateAt (change : Statement → Statement) : List Nat → Statement → Statement
  | [], s => change s
  | 1 :: address, ifElse condition thenBranch elseBranch span =>
    ifElse condition (updateAt change address thenBranch) elseBranch span
  | 2 :: address, ifElse condition thenBranch elseBranch span =>
    ifElse condition thenBranch (updateAt change address elseBranch) span
  | i :: address, block statements span =>
    block (statements.modify i (updateAt change address)) span
  | _ :: _, s => s

/-- Changes the statement at an address of a program, where one stands. -/
def updateAllAt (change : Statement → Statement) : List Nat → List Statement → List Statement
  | [], program => program
  | i :: address, program => program.modify i (updateAt change address)

/-- Where a statement was changed, the changed one is reached. -/
theorem Reaches.updateAt {target s : Statement} {address : List Nat}
    (h : Reaches target s address) (change : Statement → Statement) :
    Reaches (change target) (updateAt change address s) address := by
  induction h with
  | here => exact .here
  | thenBranch _ ih => exact .thenBranch ih
  | elseBranch _ ih => exact .elseBranch ih
  | inBlock hpart _ ih =>
    rw [Statement.updateAt]
    refine .inBlock ?_ ih
    rw [List.getElem?_modify, hpart]
    simp

/-- In a changed program the changed statement stands where the statement stood. -/
theorem placedAt?_updateAllAt {program : List Statement} {address : List Nat} {target : Statement}
    (h : WorkItem.placedAt? program address = some (.statement target))
    (change : Statement → Statement) :
    WorkItem.placedAt? (updateAllAt change address program) address =
      some (.statement (change target)) := by
  obtain ⟨i, inner, s, rfl, hs, hreach⟩ := exists_reaches_of_placedAt? h
  have hchanged := reaches_iff.mp (hreach.updateAt change)
  simpa [updateAllAt, WorkItem.placedAt?, hs] using hchanged

end Statement

namespace Edit

/-- Makes an edit to a statement, which must be a conditional. -/
def change (edit : Edit) (s : Statement) : Statement :=
  match s.asIf? with
  | some node => (EditSession.apply { node } edit).2.node.toStatement
  | none => s

/-- Makes an edit to the conditional at an address of a program. -/
def performAt (edit : Edit) (address : List Nat) (program : List Statement) : List Statement :=
  Statement.updateAllAt edit.change address program

end Edit

end StatementTree
