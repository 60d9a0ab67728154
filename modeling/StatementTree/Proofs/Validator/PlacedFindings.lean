import StatementTree.Proofs.Validator.Validation
import StatementTree.Proofs.Visitor.Occurrences

/-!
# Where the findings of a program are

Every finding is about one node, and that node stands at one place of the program. A conditional
is asked for all of its own findings, but only the one about the then branch is about the
conditional itself; the other two are about its else branch and about its condition, which are
parts of it and have addresses of their own.
-/

namespace StatementTree

open Visitor (WorkItem)

/-- A finding with the address of the node that it is about. -/
structure PlacedFinding where
  /-- The numbers of the parts on the way down to the node. -/
  address : List Nat
  /-- What was found. -/
  finding : Finding
  deriving DecidableEq

namespace PlacedFinding

/-- The same finding, seen from where the node with the given address is a part. -/
def within (address : List Nat) (f : PlacedFinding) : PlacedFinding :=
  { f with address := address ++ f.address }

/-- At the address of the whole nothing is moved. -/
@[simp] theorem within_nil : within [] = id := rfl

/-- Going down by two addresses in a row is going down by them joined. -/
theorem within_append (outer inner : List Nat) :
    within (outer ++ inner) = within outer ∘ within inner := by
  funext f
  simp [within]

/-- Findings can be moved down step by step, the outermost step last. -/
theorem map_within_cons (i : Nat) (address : List Nat) (findings : List PlacedFinding) :
    findings.map (within (i :: address)) = (findings.map (within address)).map (within [i]) := by
  rw [List.map_map, ← within_append]
  rfl

/-- Different findings stay different when they are seen from further out. -/
theorem within_injective (address : List Nat) : Function.Injective (within address) := by
  rintro ⟨inner, finding⟩ ⟨inner', finding'⟩ h
  simpa [within] using h

/-- The address of the conditional that was asked for a finding. -/
def askedAt (f : PlacedFinding) : List Nat :=
  match f.finding with
  | .emptyThenBranch _ => f.address
  | .emptyElseBlock _ | .constantCondition .. => f.address.dropLast

/-- Whether the node that a finding is about stands at the address of the finding, is as the
finding says, and has the span that the finding reports. -/
def StandsIn (program : List Statement) (f : PlacedFinding) : Prop :=
  match f.finding with
  | .emptyThenBranch span => ∃ condition elseBranch,
    WorkItem.placedAt? program f.address =
      some (.statement (.ifElse condition .empty elseBranch span))
  | .emptyElseBlock span =>
    WorkItem.placedAt? program f.address = some (.statement (.block [] span)) ∧
      ∃ outer condition thenBranch outerSpan, f.address = outer ++ [2] ∧
        WorkItem.placedAt? program outer =
          some (.statement (.ifElse condition thenBranch (.block [] span) outerSpan))
  | .constantCondition value span => ∃ condition : Condition,
    WorkItem.placedAt? program f.address = some (.condition condition) ∧
      condition.constantValue? = some value ∧ condition.span = span

end PlacedFinding

open PlacedFinding (within)

/-- The findings about one conditional, with the addresses of its parts. -/
def IfStatement.placedFindings (node : IfStatement) : List PlacedFinding :=
  node.thenFindings.map (⟨[], ·⟩) ++ node.elseFindings.map (⟨[2], ·⟩) ++
    node.condition.findings.map (⟨[0], ·⟩)

/-- A conditional has a finding about its then branch, one about its else branch and one about its
condition, each when there is a reason for it. -/
theorem IfStatement.mem_placedFindings {node : IfStatement} {f : PlacedFinding} :
    f ∈ node.placedFindings ↔
      (node.thenBranch = .empty ∧ f = ⟨[], .emptyThenBranch node.span⟩) ∨
      (∃ span, node.elseBranch = .block [] span ∧ f = ⟨[2], .emptyElseBlock span⟩) ∨
      ∃ value, node.condition.constantValue? = some value ∧
        f = ⟨[0], .constantCondition value node.condition.span⟩ := by
  rw [placedFindings, List.mem_append, List.mem_append, or_assoc]
  refine or_congr ?_ (or_congr ?_ ?_)
  · simp only [List.mem_map, mem_thenFindings]
    grind
  · simp only [List.mem_map, mem_elseFindings]
    grind
  · simp only [List.mem_map, Condition.mem_findings]
    grind

/-- A conditional has no finding twice: there is at most one about each of the three nodes. -/
theorem IfStatement.nodup_placedFindings (node : IfStatement) : node.placedFindings.Nodup := by
  unfold placedFindings thenFindings elseFindings Condition.findings
  split <;> split <;> split <;> simp

/-- The findings about what stands at a place, other than those about what is inside branches. -/
def Occurrence.placedFindings (o : Occurrence) : List PlacedFinding :=
  match o.item with
  | .statement (.ifElse condition thenBranch elseBranch span) =>
    (IfStatement.mk condition thenBranch elseBranch span).placedFindings.map (within o.address)
  | _ => []

/-- A place that is moved down takes its findings along. -/
theorem Occurrence.placedFindings_under (i : Nat) (o : Occurrence) :
    (o.under i).placedFindings = o.placedFindings.map (within [i]) := by
  obtain ⟨address, item⟩ := o
  cases item with
  | condition c => rfl
  | statement s =>
    cases s <;> simp [placedFindings, under, ← PlacedFinding.within_append]

/-- There is no finding twice at a place. -/
theorem Occurrence.nodup_placedFindings (o : Occurrence) : o.placedFindings.Nodup := by
  unfold placedFindings
  split
  case h_1 condition thenBranch elseBranch span _ =>
    let node : IfStatement := ⟨condition, thenBranch, elseBranch, span⟩
    have hwithin {f g : PlacedFinding} (hne : f ≠ g) : within o.address f ≠ within o.address g :=
      (PlacedFinding.within_injective o.address).ne hne
    exact List.pairwise_map.mpr (node.nodup_placedFindings.imp hwithin)
  case h_2 => exact List.nodup_nil

/-- The findings at a place are those that the conditional there was asked for. -/
theorem Occurrence.askedAt_of_mem {o : Occurrence} {f : PlacedFinding}
    (h : f ∈ o.placedFindings) : f.askedAt = o.address := by
  unfold placedFindings at h
  split at h
  case h_2 => cases h
  case h_1 condition thenBranch elseBranch span _ =>
    obtain ⟨own, hown, rfl⟩ := List.mem_map.mp h
    rcases IfStatement.mem_placedFindings.mp hown with
      ⟨-, rfl⟩ | ⟨blockSpan, -, rfl⟩ | ⟨value, -, rfl⟩ <;>
    simp [PlacedFinding.askedAt, within]

namespace Statement

/-- The findings in a statement, with their addresses in it. -/
def placedFindings (s : Statement) : List PlacedFinding :=
  s.occurrences.flatMap Occurrence.placedFindings

/-- The findings in some statements, the first of which has the given number. -/
def placedFindingsFrom (i : Nat) (statements : List Statement) : List PlacedFinding :=
  (occurrencesFrom i statements).flatMap Occurrence.placedFindings

/-- The findings in a program, with their addresses. -/
def allPlacedFindings (program : List Statement) : List PlacedFinding :=
  placedFindingsFrom 0 program

/-- The findings in a part of a node are found at the places of the part. -/
private theorem flatMap_under (i : Nat) (s : Statement) :
    (s.occurrences.map (Occurrence.under i)).flatMap Occurrence.placedFindings =
      s.placedFindings.map (within [i]) := by
  simp only [placedFindings, List.flatMap_map, List.map_flatMap, Occurrence.placedFindings_under]

/-- There are no findings in an empty list. -/
@[simp] theorem placedFindingsFrom_nil (i : Nat) : placedFindingsFrom i [] = [] := by
  simp [placedFindingsFrom, occurrencesFrom]

/-- The findings in the first statement come before those in the others. -/
@[simp] theorem placedFindingsFrom_cons (i : Nat) (s : Statement) (rest : List Statement) :
    placedFindingsFrom i (s :: rest) =
      s.placedFindings.map (within [i]) ++ placedFindingsFrom (i + 1) rest := by
  rw [placedFindingsFrom, occurrencesFrom, List.flatMap_append, flatMap_under]
  rfl

/-- The findings about a conditional come before those inside its branches. -/
theorem placedFindings_ifElse (node : IfStatement) :
    node.toStatement.placedFindings =
      node.placedFindings ++ node.thenBranch.placedFindings.map (within [1]) ++
        node.elseBranch.placedFindings.map (within [2]) := by
  have hcondition : ([⟨[0], .condition node.condition⟩] : List Occurrence).flatMap
      Occurrence.placedFindings = [] := rfl
  have hown : Occurrence.placedFindings ⟨[], .statement node.toStatement⟩ =
      node.placedFindings := by
    simp [Occurrence.placedFindings, IfStatement.toStatement]
  rw [placedFindings, IfStatement.toStatement, occurrences, List.flatMap_cons,
    List.flatMap_append, List.flatMap_append, flatMap_under, flatMap_under, List.append_assoc]
  rw [IfStatement.toStatement] at hown
  rw [hown]
  simp [Occurrence.under, hcondition]

/-- The findings in a block are those in its statements, numbered from zero. -/
@[simp] theorem placedFindings_block (statements : List Statement) (span : Span) :
    (block statements span).placedFindings = placedFindingsFrom 0 statements := by
  rw [placedFindings, occurrences, List.flatMap_cons]
  rfl

/-- There are no findings in an expression statement. -/
@[simp] theorem placedFindings_expression (expr : Expr) (span : Span) :
    (expression expr span).placedFindings = [] := by
  simp [placedFindings, occurrences, Occurrence.placedFindings]

/-- There are no findings in a return. -/
@[simp] theorem placedFindings_returning (value : Option Expr) (span : Span) :
    (returning value span).placedFindings = [] := by
  simp [placedFindings, occurrences, Occurrence.placedFindings]

/-- There are no findings in the empty statement. -/
@[simp] theorem placedFindings_empty : empty.placedFindings = [] := by
  simp [placedFindings, occurrences, Occurrence.placedFindings]

/-- Without addresses the findings in a list are those in its statements, if this is so of each. -/
private theorem map_finding_from {statements : List Statement}
    (h : ∀ s ∈ statements, s.placedFindings.map (·.finding) = s.findings) (i : Nat) :
    (placedFindingsFrom i statements).map (·.finding) = findingsAll statements := by
  induction statements generalizing i with
  | nil => simp
  | cons s rest ih =>
    have hs := h s (by simp)
    have hrest := ih (fun t ht => h t (List.mem_cons_of_mem _ ht)) (i + 1)
    simp [hrest, ← hs, Function.comp_def, within]

/-- Without their addresses these are the findings in a statement, in their order. -/
theorem map_finding_placedFindings (s : Statement) :
    s.placedFindings.map (·.finding) = s.findings := by
  induction s with
  | ifElse condition thenBranch elseBranch span ihthen ihelse =>
    let node : IfStatement := ⟨condition, thenBranch, elseBranch, span⟩
    have hown : node.placedFindings.map (·.finding) = node.findings := by
      simp [IfStatement.placedFindings, IfStatement.findings, Function.comp_def]
    have hplaced := placedFindings_ifElse node
    have hfindings := findings_ifElse node
    rw [IfStatement.toStatement] at hplaced hfindings
    rw [hplaced, hfindings, ← hown, ← ihthen, ← ihelse]
    simp [Function.comp_def, within, node]
  | block statements span ih =>
    rw [placedFindings_block, findings_block]
    exact map_finding_from ih 0
  | expression expr span => simp
  | returning value span => simp
  | empty => simp

/-- Without their addresses these are the findings in a program, in their order. -/
theorem map_finding_allPlacedFindings (program : List Statement) :
    (allPlacedFindings program).map (·.finding) = findingsAll program :=
  map_finding_from (fun s _ => map_finding_placedFindings s) 0

/-- A program has no finding twice: different conditionals stand at different addresses. -/
theorem nodup_allPlacedFindings (program : List Statement) : (allPlacedFindings program).Nodup := by
  refine List.pairwise_flatMap.mpr ⟨fun o _ => o.nodup_placedFindings, ?_⟩
  refine (pairwise_allOccurrences program).imp fun {a b} hbefore f hf g hg hsame => ?_
  have haddress : a.address = b.address := by
    rw [← Occurrence.askedAt_of_mem hf, ← Occurrence.askedAt_of_mem hg, hsame]
  rw [Occurrence.Before, haddress] at hbefore
  exact List.lt_irrefl _ hbefore

/-- Every finding of a program is about the node that stands at its address. -/
theorem standsIn_of_mem {program : List Statement} {f : PlacedFinding}
    (h : f ∈ allPlacedFindings program) : f.StandsIn program := by
  obtain ⟨⟨address, item⟩, hmem, hf⟩ := List.mem_flatMap.mp h
  have hplaced : WorkItem.placedAt? program address = some item :=
    (mem_allOccurrences program ⟨address, item⟩).mp hmem
  match item with
  | .condition c => cases hf
  | .statement (.block ..) => cases hf
  | .statement (.expression ..) => cases hf
  | .statement (.returning ..) => cases hf
  | .statement .empty => cases hf
  | .statement (.ifElse condition thenBranch elseBranch span) =>
    obtain ⟨own, hown, rfl⟩ := List.mem_map.mp hf
    have hpart (i : Nat) := WorkItem.placedAt?_concat hplaced i
    rcases IfStatement.mem_placedFindings.mp hown with
      ⟨rfl, rfl⟩ | ⟨blockSpan, rfl, rfl⟩ | ⟨value, hvalue, rfl⟩
    · exact ⟨condition, elseBranch, by simpa [within] using hplaced⟩
    · exact ⟨hpart 2, address, condition, thenBranch, span, rfl, hplaced⟩
    · exact ⟨condition, hpart 0, hvalue, rfl⟩

end Statement

/-- A validator that has visited a whole program has come across its findings. -/
theorem Validator.records_visitAll (program : List Statement) :
    (visitor.visitAll program {}).Records (Statement.findingsAll program) :=
  Records.visitAll_of (fun s _ _ _ h => h.visit s) records_nil

/-- The diagnostics of a program are those of its first findings. -/
theorem validate_fst (program : List Statement) :
    (validate program).1 =
      ((Statement.allPlacedFindings program).take maxDiagnostics).map (·.finding.toDiagnostic) := by
  have hdiagnostics := (Validator.records_visitAll program).diagnostics
  rw [← Statement.map_finding_allPlacedFindings, ← List.map_take, List.map_map] at hdiagnostics
  exact hdiagnostics

end StatementTree
