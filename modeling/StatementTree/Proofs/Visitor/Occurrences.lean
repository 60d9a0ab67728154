import Mathlib.Data.List.Basic
import StatementTree.Visitor.Worklist

/-!
# The places in a program

Every statement and every condition of a program stands at one place, which has an address: the
number of a statement of the program, then the number of a part of that statement, and so on
down. The parts of a conditional are its condition, its then branch and its else branch, with
the numbers 0, 1 and 2, empty branches included; those of a block are its statements. A subtree
that is used twice stands at two places. Listed from the outside in and from left to right, the
places are in the order of their addresses, and each of them is listed once.
-/

namespace StatementTree

namespace Visitor.WorkItem

/-- What an item is made of, in the order in which it is visited. -/
def parts : WorkItem → List WorkItem
  | statement (.ifElse c thenBranch elseBranch span) => ofIf ⟨c, thenBranch, elseBranch, span⟩
  | statement (.block statements span) => ofBlock ⟨statements, span⟩
  | _ => []

/-- What stands at an address inside an item. -/
def partAt? (item : WorkItem) : List Nat → Option WorkItem
  | [] => some item
  | i :: address => item.parts[i]?.bind fun part => part.partAt? address

/-- What stands at an address in a program. -/
def placedAt? (statements : List Statement) : List Nat → Option WorkItem
  | [] => none
  | i :: address => (statements.map statement)[i]?.bind fun item => item.partAt? address

/-- What stands at the address of a part is found by way of the whole. -/
theorem partAt?_append (item : WorkItem) (outer inner : List Nat) :
    item.partAt? (outer ++ inner) = (item.partAt? outer).bind (·.partAt? inner) := by
  induction outer generalizing item with
  | nil => rfl
  | cons i outer ih =>
    rw [List.cons_append, partAt?, partAt?]
    cases item.parts[i]? with
    | none => rfl
    | some part => exact ih part

/-- The parts of what stands at an address stand one step below it. -/
theorem placedAt?_concat {program : List Statement} {address : List Nat} {item : WorkItem}
    (h : placedAt? program address = some item) (i : Nat) :
    placedAt? program (address ++ [i]) = item.parts[i]? := by
  cases address with
  | nil => cases h
  | cons k address =>
    obtain ⟨root, hroot, hitem⟩ := Option.bind_eq_some_iff.mp h
    have hpart : item.partAt? [i] = item.parts[i]? := by
      rw [partAt?]
      cases item.parts[i]? <;> rfl
    rw [List.cons_append, placedAt?, hroot, Option.bind_some, partAt?_append, hitem,
      Option.bind_some, hpart]

/-- The parts of an item are smaller than the item. -/
theorem totalWeight_parts_lt (item : WorkItem) : totalWeight item.parts < item.weight := by
  cases item with
  | condition c => exact weight_pos _
  | statement s =>
    cases s with
    | ifElse c thenBranch elseBranch span => exact totalWeight_ofIf_lt ⟨c, _, _, span⟩
    | block statements span => exact totalWeight_ofBlock_lt ⟨statements, span⟩
    | expression expr span => exact weight_pos _
    | returning value span => exact weight_pos _
    | empty => exact weight_pos _

end Visitor.WorkItem

open Visitor (WorkItem)

/-- A place with what stands there. -/
structure Occurrence where
  /-- The numbers of the parts on the way down to the place. -/
  address : List Nat
  /-- What stands at the place. -/
  item : WorkItem

namespace Occurrence

/-- The same place, seen from outside the part with the given number. -/
def under (i : Nat) (o : Occurrence) : Occurrence := { o with address := i :: o.address }

/-- One place comes before another when its address does: a node comes before its parts, and
earlier parts come before later ones. -/
def Before (a b : Occurrence) : Prop := a.address < b.address

/-- A whole comes before everything inside it. -/
theorem before_of_address_ne_nil {o : Occurrence} (h : o.address ≠ []) (item : WorkItem) :
    Before ⟨[], item⟩ o := by
  obtain ⟨i, address, haddress⟩ := List.exists_cons_of_ne_nil h
  rw [Before, haddress]
  exact List.nil_lt_cons ..

/-- Places keep their order when they are moved down by one step. -/
theorem before_under {i : Nat} {a b : Occurrence} (h : a.Before b) :
    (a.under i).Before (b.under i) :=
  List.cons_lt_cons_iff.mpr (.inr ⟨rfl, h⟩)

/-- Places in order are in order when they are moved down by one step. -/
theorem pairwise_under {i : Nat} {places : List Occurrence} (h : places.Pairwise Before) :
    (places.map (under i)).Pairwise Before :=
  List.pairwise_map.mpr (h.imp before_under)

/-- All places in one part come before all places in a later part. -/
theorem before_of_mem_map_under {i k : Nat} (h : i < k) {earlier later : List Occurrence} :
    ∀ a ∈ earlier.map (under i), ∀ b ∈ later.map (under k), a.Before b := by
  intro a ha b hb
  obtain ⟨a, -, rfl⟩ := List.mem_map.mp ha
  obtain ⟨b, -, rfl⟩ := List.mem_map.mp hb
  exact List.cons_lt_cons_iff.mpr (.inl h)

/-- The places inside a part are those whose addresses go on from the number of the part. -/
theorem mem_map_under {i : Nat} {places : List Occurrence} {o : Occurrence} :
    o ∈ places.map (under i) ↔
      ∃ address, o.address = i :: address ∧ ⟨address, o.item⟩ ∈ places := by
  constructor
  · intro h
    obtain ⟨inner, hinner, rfl⟩ := List.mem_map.mp h
    exact ⟨inner.address, rfl, hinner⟩
  · rintro ⟨address, haddress, hmem⟩
    refine List.mem_map.mpr ⟨_, hmem, ?_⟩
    cases o
    simpa [under] using haddress.symm

end Occurrence

namespace Statement

open Occurrence

mutual

/-- The places in a statement, from the outside in and from left to right. -/
def occurrences : Statement → List Occurrence
  | ifElse condition thenBranch elseBranch span =>
    ⟨[], .statement (ifElse condition thenBranch elseBranch span)⟩ ::
      (([⟨[], .condition condition⟩] : List Occurrence).map (under 0) ++
        thenBranch.occurrences.map (under 1) ++ elseBranch.occurrences.map (under 2))
  | block statements span =>
    ⟨[], .statement (block statements span)⟩ :: occurrencesFrom 0 statements
  | s => [⟨[], .statement s⟩]

/-- The places in some statements, the first of which has the given number. -/
def occurrencesFrom : Nat → List Statement → List Occurrence
  | _, [] => []
  | i, s :: rest => s.occurrences.map (under i) ++ occurrencesFrom (i + 1) rest

end

/-- The places in a program. -/
def allOccurrences (statements : List Statement) : List Occurrence := occurrencesFrom 0 statements

/-- The places in a list are those inside its statements, when this is so of each statement. -/
private theorem mem_occurrencesFrom {statements : List Statement}
    (h : ∀ s ∈ statements, ∀ o,
      o ∈ s.occurrences ↔ (WorkItem.statement s).partAt? o.address = some o.item)
    (i : Nat) (o : Occurrence) :
    o ∈ occurrencesFrom i statements ↔
      ∃ k address, o.address = (i + k) :: address ∧
        WorkItem.placedAt? statements (k :: address) = some o.item := by
  induction statements generalizing i with
  | nil => simp [occurrencesFrom, WorkItem.placedAt?]
  | cons s rest ih =>
    have hrest := ih (fun t ht => h t (List.mem_cons_of_mem _ ht)) (i + 1)
    rw [occurrencesFrom, List.mem_append, mem_map_under, hrest]
    constructor
    · rintro (⟨address, haddress, hmem⟩ | ⟨k, address, haddress, hplaced⟩)
      · exact ⟨0, address, haddress, (h s (by simp) _).mp hmem⟩
      · exact ⟨k + 1, address, by rw [haddress, Nat.add_right_comm, Nat.add_assoc], hplaced⟩
    · rintro ⟨k, address, haddress, hplaced⟩
      cases k with
      | zero => exact .inl ⟨address, haddress, (h s (by simp) ⟨address, o.item⟩).mpr hplaced⟩
      | succ k =>
        exact .inr ⟨k, address, by rw [haddress, Nat.add_right_comm, Nat.add_assoc], hplaced⟩

/-- The places in a statement are those that have an address in it. -/
theorem mem_occurrences (s : Statement) (o : Occurrence) :
    o ∈ s.occurrences ↔ (WorkItem.statement s).partAt? o.address = some o.item := by
  obtain ⟨address, item⟩ := o
  induction s generalizing address item with
  | ifElse condition thenBranch elseBranch span ihthen ihelse =>
    rw [occurrences, List.mem_cons, List.mem_append, List.mem_append, mem_map_under, mem_map_under,
      mem_map_under]
    -- The address is empty, or goes on with a part: 0, 1 and 2 exist, and part 0 has no parts.
    rcases address with _ | ⟨_ | _ | _ | i, address⟩
    · simpa [WorkItem.partAt?] using eq_comm
    · cases address with
      | nil => simpa [WorkItem.partAt?, WorkItem.parts, WorkItem.ofIf] using eq_comm
      | cons i address => simp [WorkItem.partAt?, WorkItem.parts, WorkItem.ofIf]
    · simp [ihthen, WorkItem.partAt?, WorkItem.parts, WorkItem.ofIf]
    · simp [ihelse, WorkItem.partAt?, WorkItem.parts, WorkItem.ofIf]
    · simp [WorkItem.partAt?, WorkItem.parts, WorkItem.ofIf]
  | block statements span ih =>
    rw [occurrences, List.mem_cons, mem_occurrencesFrom fun s hs o => ih s hs o.address o.item]
    cases address with
    | nil => simpa [WorkItem.partAt?] using eq_comm
    | cons i address =>
      simp [WorkItem.partAt?, WorkItem.parts, WorkItem.ofBlock, WorkItem.placedAt?]
  | expression expr span =>
    cases address with
    | nil => simpa [occurrences, WorkItem.partAt?] using eq_comm
    | cons i address => simp [occurrences, WorkItem.partAt?, WorkItem.parts]
  | returning value span =>
    cases address with
    | nil => simpa [occurrences, WorkItem.partAt?] using eq_comm
    | cons i address => simp [occurrences, WorkItem.partAt?, WorkItem.parts]
  | empty =>
    cases address with
    | nil => simpa [occurrences, WorkItem.partAt?] using eq_comm
    | cons i address => simp [occurrences, WorkItem.partAt?, WorkItem.parts]

/-- The places in a program are those that have an address in it. -/
theorem mem_allOccurrences (statements : List Statement) (o : Occurrence) :
    o ∈ allOccurrences statements ↔ WorkItem.placedAt? statements o.address = some o.item := by
  rw [allOccurrences, mem_occurrencesFrom fun s _ => mem_occurrences s]
  obtain ⟨address, item⟩ := o
  cases address with
  | nil => simp [WorkItem.placedAt?]
  | cons i address => simp [WorkItem.placedAt?]

/-- The places in a list have addresses that start with the number of a statement. -/
private theorem address_of_mem_occurrencesFrom {i : Nat} {statements : List Statement}
    {o : Occurrence} (h : o ∈ occurrencesFrom i statements) :
    ∃ k address, o.address = (i + k) :: address := by
  obtain ⟨k, address, haddress, -⟩ := (mem_occurrencesFrom (fun s _ => mem_occurrences s) i o).mp h
  exact ⟨k, address, haddress⟩

/-- The places in a list are in order when those of each statement are. -/
private theorem pairwise_occurrencesFrom {statements : List Statement}
    (h : ∀ s ∈ statements, s.occurrences.Pairwise Before) (i : Nat) :
    (occurrencesFrom i statements).Pairwise Before := by
  induction statements generalizing i with
  | nil => simp [occurrencesFrom]
  | cons s rest ih =>
    have hrest := ih (fun t ht => h t (List.mem_cons_of_mem _ ht)) (i + 1)
    rw [occurrencesFrom, List.pairwise_append]
    refine ⟨pairwise_under (h s (by simp)), hrest, fun a ha b hb => ?_⟩
    obtain ⟨a, -, rfl⟩ := List.mem_map.mp ha
    obtain ⟨k, address, haddress⟩ := address_of_mem_occurrencesFrom hb
    rw [Before, haddress]
    exact List.cons_lt_cons_iff.mpr (.inl (by omega))

/-- The places in a statement are listed in the order of their addresses. -/
theorem pairwise_occurrences (s : Statement) : s.occurrences.Pairwise Before := by
  induction s with
  | ifElse condition thenBranch elseBranch span ihthen ihelse =>
    have hcondition : [(⟨[], .condition condition⟩ : Occurrence)].Pairwise Before := by simp
    rw [occurrences, List.pairwise_cons, List.pairwise_append, List.pairwise_append]
    refine ⟨fun o ho => before_of_address_ne_nil ?_ _,
      ⟨pairwise_under hcondition, pairwise_under ihthen, before_of_mem_map_under (by omega)⟩,
      pairwise_under ihelse, fun a ha b hb => ?_⟩
    · rw [List.mem_append, List.mem_append, mem_map_under, mem_map_under, mem_map_under] at ho
      rcases ho with (⟨address, haddress, -⟩ | ⟨address, haddress, -⟩) | ⟨address, haddress, -⟩ <;>
        simp [haddress]
    · rcases List.mem_append.mp ha with ha | ha
      · exact before_of_mem_map_under (by omega) a ha b hb
      · exact before_of_mem_map_under (by omega) a ha b hb
  | block statements span ih =>
    rw [occurrences, List.pairwise_cons]
    refine ⟨fun b hb => before_of_address_ne_nil ?_ _, pairwise_occurrencesFrom ih 0⟩
    obtain ⟨k, address, haddress⟩ := address_of_mem_occurrencesFrom hb
    simp [haddress]
  | expression expr span => simp [occurrences]
  | returning value span => simp [occurrences]
  | empty => simp [occurrences]

/-- The places in a program are listed in the order of their addresses. -/
theorem pairwise_allOccurrences (statements : List Statement) :
    (allOccurrences statements).Pairwise Before :=
  pairwise_occurrencesFrom (fun s _ => pairwise_occurrences s) 0

end Statement

end StatementTree
