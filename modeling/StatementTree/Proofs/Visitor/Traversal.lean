import StatementTree.Proofs.Visitor.Occurrences
import StatementTree.Visitor.Recorder

/-!
# A visit is a run of a worklist

Visiting an item runs the one action that belongs to it and then, when the action says so, visits
its parts in order. Taking an item off a worklist runs the same action and puts the same parts in
front of what is left. So a visit of a program and a run of its worklist leave the same state,
however the decisions to enter depend on what came before. When every conditional and every block
is entered, nothing is left out: the actions run are those of all places of the program, in the
order of their addresses.
-/

namespace StatementTree

namespace Visitor

variable {σ : Type}

/-- Runs the one action that belongs to an item, and says whether its parts come next. What has
no parts is not entered. -/
def act (v : Visitor σ) : WorkItem → σ → σ × Descent
  | .condition c, state => (v.onCondition c state, .skip)
  | .statement (.ifElse condition thenBranch elseBranch span), state =>
    v.onIf ⟨condition, thenBranch, elseBranch, span⟩ state
  | .statement (.block statements span), state => v.onBlock ⟨statements, span⟩ state
  | .statement (.expression expr span), state => (v.onExpression ⟨expr, span⟩ state, .skip)
  | .statement (.returning value span), state => (v.onReturn ⟨value, span⟩ state, .skip)
  | .statement .empty, state => (v.onEmpty state, .skip)

/-- Visits an item and what it enters. -/
def visitItem (v : Visitor σ) : WorkItem → σ → σ
  | .condition c, state => v.onCondition c state
  | .statement s, state => v.visit s state

/-- Visits items in order. -/
def visitItems (v : Visitor σ) (items : List WorkItem) (state : σ) : σ :=
  items.foldl (fun state item => v.visitItem item state) state

/-- The first item is visited before the others. -/
theorem visitItems_cons (v : Visitor σ) (item : WorkItem) (rest : List WorkItem) (state : σ) :
    v.visitItems (item :: rest) state = v.visitItems rest (v.visitItem item state) := rfl

/-- Visiting items in a row is visiting them joined. -/
theorem visitItems_append (v : Visitor σ) (xs ys : List WorkItem) (state : σ) :
    v.visitItems (xs ++ ys) state = v.visitItems ys (v.visitItems xs state) :=
  List.foldl_append

/-- Visiting statements is visiting them as items. -/
theorem visitAll_eq_visitItems (v : Visitor σ) (statements : List Statement) (state : σ) :
    v.visitAll statements state = v.visitItems (statements.map .statement) state := by
  induction statements generalizing state with
  | nil => rfl
  | cons s rest ih => rw [visitAll, ih, List.map_cons, visitItems_cons, visitItem]

/-- A visit runs the action of the item, and then visits the parts of what was entered. -/
theorem visitItem_eq (v : Visitor σ) (item : WorkItem) (state : σ) :
    v.visitItem item state =
      match v.act item state with
      | (state, .enter) => v.visitItems item.parts state
      | (state, .skip) => state := by
  cases item with
  | condition c => rfl
  | statement s =>
    cases s with
    | ifElse condition thenBranch elseBranch span => rw [visitItem, visit]; rfl
    | block statements span =>
      rw [visitItem, visit]
      simp only [visitAll_eq_visitItems]
      rfl
    | expression expr span => rw [visitItem, visit]; rfl
    | returning value span => rw [visitItem, visit]; rfl
    | empty => rw [visitItem, visit]; rfl

/-- A worklist runs the action of its first item, and then goes on with the parts of what was
entered before the rest. -/
theorem drain_cons (v : Visitor σ) (item : WorkItem) (rest : List WorkItem) (state : σ) :
    v.drain (item :: rest) state =
      match v.act item state with
      | (state, .enter) => v.drain (item.parts ++ rest) state
      | (state, .skip) => v.drain rest state := by
  cases item with
  | condition c => rw [drain]; rfl
  | statement s => cases s <;> rw [drain] <;> rfl

/-- Running a worklist visits its items in order. The induction is on the size of all that is on
the list: it falls when parts take the place of what they are parts of. -/
theorem drain_eq_visitItems (v : Visitor σ) (items : List WorkItem) (state : σ) :
    v.drain items state = v.visitItems items state := by
  match items with
  | [] => rw [drain]; rfl
  | item :: rest =>
    have hparts := item.totalWeight_parts_lt
    have hitem := item.weight_pos
    have hitems := WorkItem.totalWeight_cons item rest
    have hentered := WorkItem.totalWeight_append item.parts rest
    rw [drain_cons, visitItems_cons, visitItem_eq]
    rcases v.act item state with ⟨next, _ | _⟩
    · -- The parts are visited before the rest, as the list has them in front of it.
      dsimp only
      rw [drain_eq_visitItems v (item.parts ++ rest) next, visitItems_append]
    · exact drain_eq_visitItems v rest next
termination_by WorkItem.totalWeight items

/-- Whether a visitor goes on inside every conditional and every block. -/
structure EntersEverything (v : Visitor σ) : Prop where
  /-- Every conditional is entered. -/
  ifs : ∀ node state, (v.onIf node state).2 = .enter
  /-- Every block is entered. -/
  blocks : ∀ node state, (v.onBlock node state).2 = .enter

/-- Runs the actions that belong to some places in order. -/
def actAll (v : Visitor σ) (places : List Occurrence) (state : σ) : σ :=
  places.foldl (fun state place => (v.act place.item state).1) state

/-- The action at the first place is done before the others. -/
theorem actAll_cons (v : Visitor σ) (place : Occurrence) (rest : List Occurrence) (state : σ) :
    v.actAll (place :: rest) state = v.actAll rest (v.act place.item state).1 := rfl

/-- Acting at places in a row is acting at them joined. -/
theorem actAll_append (v : Visitor σ) (xs ys : List Occurrence) (state : σ) :
    v.actAll (xs ++ ys) state = v.actAll ys (v.actAll xs state) :=
  List.foldl_append

/-- The number of the part that places are in has no influence on what is done there. -/
theorem actAll_under (v : Visitor σ) (i : Nat) (places : List Occurrence) (state : σ) :
    v.actAll (places.map (.under i)) state = v.actAll places state := by
  rw [actAll, List.foldl_map]
  rfl

namespace EntersEverything

variable {v : Visitor σ}

/-- A visit of a list acts at its places in order, when this is so of each statement. -/
theorem visitAll_of {statements : List Statement}
    (h : ∀ s ∈ statements, ∀ state, v.visit s state = v.actAll s.occurrences state)
    (i : Nat) (state : σ) :
    v.visitAll statements state = v.actAll (Statement.occurrencesFrom i statements) state := by
  induction statements generalizing i state with
  | nil => rfl
  | cons s rest ih =>
    have hrest := ih fun t ht => h t (List.mem_cons_of_mem _ ht)
    rw [visitAll, h s (by simp), hrest (i + 1), Statement.occurrencesFrom, actAll_append,
      actAll_under]

/-- A visit that enters everything runs the action of every place once and in order. -/
theorem visit_eq (hv : v.EntersEverything) (s : Statement) (state : σ) :
    v.visit s state = v.actAll s.occurrences state := by
  induction s generalizing state with
  | ifElse condition thenBranch elseBranch span ihthen ihelse =>
    have henter := hv.ifs ⟨condition, thenBranch, elseBranch, span⟩ state
    rw [visit, Statement.occurrences, actAll_cons, actAll_append, actAll_append, actAll_under,
      actAll_under, actAll_under, ← ihthen, ← ihelse, act]
    rcases hnext : v.onIf ⟨condition, thenBranch, elseBranch, span⟩ state with ⟨next, descent⟩
    obtain rfl : descent = .enter := by simpa [hnext] using henter
    rfl
  | block statements span ih =>
    have henter := hv.blocks ⟨statements, span⟩ state
    rw [visit, Statement.occurrences, actAll_cons, act]
    rcases hnext : v.onBlock ⟨statements, span⟩ state with ⟨next, descent⟩
    obtain rfl : descent = .enter := by simpa [hnext] using henter
    exact visitAll_of ih 0 next
  | expression expr span => rfl
  | returning value span => rfl
  | empty => rfl

end EntersEverything

/-- A visit of a program and a run of its worklist leave the same state. When everything is
entered, that is the state in which the actions of all places leave it, in the order of the
addresses. Each place of the program is there, and it is there once: so a condition, which is
part 0 of its conditional, has its one turn before the branches, which are parts 1 and 2. -/
theorem visitAll_eq_drain (v : Visitor σ) (statements : List Statement) (state : σ) :
    let places := Statement.allOccurrences statements
    v.visitAll statements state = v.drain (statements.map .statement) state ∧
      (v.EntersEverything → v.visitAll statements state = v.actAll places state) ∧
      places.Pairwise (fun a b => a.address < b.address) ∧
      ∀ place, place ∈ places ↔
        WorkItem.placedAt? statements place.address = some place.item := by
  intro places
  refine ⟨?_, fun hv => ?_, ?_, Statement.mem_allOccurrences statements⟩
  · rw [drain_eq_visitItems, visitAll_eq_visitItems]
  · exact EntersEverything.visitAll_of (fun s _ => hv.visit_eq s) 0 state
  · exact Statement.pairwise_allOccurrences statements

/-- A recorder that enters everything sees an empty else branch as well. -/
theorem visitAll_eq_drain_recorder :
    let program : List Statement :=
      [.ifElse { expr := .var { name := "ready" } } (.block [.empty, .returning none]) .empty]
    let v := recorder true true
    v.EntersEverything ∧
      v.visitAll program #[] = v.actAll (Statement.allOccurrences program) #[] ∧
      (v.visitAll program #[]).toList =
        [.ifElse {}, .condition "ready", .block 2, .empty, .returning none, .empty] := by
  intro program v
  have hv : v.EntersEverything := ⟨fun _ _ => rfl, fun _ _ => rfl⟩
  exact ⟨hv, (visitAll_eq_drain v program #[]).2.1 hv, by decide⟩

end Visitor

end StatementTree
