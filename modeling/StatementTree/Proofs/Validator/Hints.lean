import Mathlib.Data.List.Nodup
import StatementTree.Proofs.Statement.UpdateAt
import StatementTree.Proofs.Validator.PlacedFindings

/-!
# Following the hints of the validator

Taking away an `else` with an empty block, or putting something that is in order into an empty then
branch, changes what the validator says in one point: the finding that asked for the edit is gone.
A conditional further out sees of its branches only whether they are empty or empty blocks, and
neither is a branch that has a conditional in it. So the edit changes the findings about the edited
conditional alone, and all others stay, at their addresses and in their order.
-/

namespace StatementTree

open Visitor (WorkItem)
open PlacedFinding (within)

/-- Two lists of findings that agree except for one part, which is `old` in the first list and
`new` in the second. -/
def AgreeAround (old new before after : List PlacedFinding) : Prop :=
  ∃ front back, before = front ++ old ++ back ∧ after = front ++ new ++ back

namespace AgreeAround

variable {old new before after : List PlacedFinding}

/-- What is the same on both sides can be put around lists that agree. -/
theorem append (h : AgreeAround old new before after) (xs ys : List PlacedFinding) :
    AgreeAround old new (xs ++ before ++ ys) (xs ++ after ++ ys) := by
  obtain ⟨front, back, rfl, rfl⟩ := h
  exact ⟨xs ++ front, back ++ ys, by simp, by simp⟩

/-- Lists that agree around a part agree around it when all findings are moved alike. -/
theorem map (h : AgreeAround old new before after) (f : PlacedFinding → PlacedFinding) :
    AgreeAround (old.map f) (new.map f) (before.map f) (after.map f) := by
  obtain ⟨front, back, rfl, rfl⟩ := h
  exact ⟨front.map f, back.map f, by simp, by simp⟩

end AgreeAround

namespace Statement

/-- Whether a statement is no reason for a finding about a conditional that it is a branch of. -/
def Unremarkable (s : Statement) : Prop := s ≠ empty ∧ ∀ span, s ≠ block [] span

/-- A statement is unremarkable when there is a conditional in it. -/
theorem Reaches.unremarkable {node : IfStatement} {s : Statement} {address : List Nat}
    (h : Reaches node.toStatement s address) : s.Unremarkable := by
  cases h with
  | here | thenBranch | elseBranch => exact ⟨Statement.noConfusion, fun _ => Statement.noConfusion⟩
  | inBlock hpart _ =>
    refine ⟨Statement.noConfusion, fun span hempty => ?_⟩
    rw [(block.inj hempty).1] at hpart
    cases hpart

end Statement

/-- There is no finding about a then branch that is not empty. -/
theorem IfStatement.thenFindings_eq_nil {node : IfStatement} (h : node.thenBranch ≠ .empty) :
    node.thenFindings = [] := by
  rw [List.eq_nil_iff_forall_not_mem]
  exact fun f hf => h (mem_thenFindings.mp hf).1

/-- There is no finding about an else branch that is no block without statements. -/
theorem IfStatement.elseFindings_eq_nil {node : IfStatement}
    (h : ∀ span, node.elseBranch ≠ .block [] span) : node.elseFindings = [] := by
  rw [List.eq_nil_iff_forall_not_mem]
  intro f hf
  obtain ⟨span, helse, -⟩ := mem_elseFindings.mp hf
  exact h span helse

/-- The findings about a conditional are the same for all unremarkable then branches. -/
theorem IfStatement.placedFindings_thenBranch {node : IfStatement} {branch : Statement}
    (hnode : node.thenBranch.Unremarkable) (hbranch : branch.Unremarkable) :
    { node with thenBranch := branch }.placedFindings = node.placedFindings := by
  have hnew : { node with thenBranch := branch }.thenFindings = [] :=
    thenFindings_eq_nil hbranch.1
  rw [placedFindings, placedFindings, hnew, thenFindings_eq_nil hnode.1]
  rfl

/-- The findings about a conditional are the same for all unremarkable else branches. -/
theorem IfStatement.placedFindings_elseBranch {node : IfStatement} {branch : Statement}
    (hnode : node.elseBranch.Unremarkable) (hbranch : branch.Unremarkable) :
    { node with elseBranch := branch }.placedFindings = node.placedFindings := by
  have hnew : { node with elseBranch := branch }.elseFindings = [] :=
    elseFindings_eq_nil hbranch.2
  rw [placedFindings, placedFindings, hnew, elseFindings_eq_nil hnode.2]
  rfl

namespace AgreeAround

variable {old new : List PlacedFinding}

/-- Changing a then branch changes the findings in it. -/
theorem thenBranch {node : IfStatement} {branch : Statement}
    (h : AgreeAround old new node.thenBranch.placedFindings branch.placedFindings)
    (hnode : node.thenBranch.Unremarkable) (hbranch : branch.Unremarkable) :
    AgreeAround (old.map (within [1])) (new.map (within [1])) node.toStatement.placedFindings
      { node with thenBranch := branch }.toStatement.placedFindings := by
  rw [Statement.placedFindings_ifElse, Statement.placedFindings_ifElse,
    IfStatement.placedFindings_thenBranch hnode hbranch]
  exact (h.map (within [1])).append node.placedFindings
    (node.elseBranch.placedFindings.map (within [2]))

/-- Changing an else branch changes the findings in it. -/
theorem elseBranch {node : IfStatement} {branch : Statement}
    (h : AgreeAround old new node.elseBranch.placedFindings branch.placedFindings)
    (hnode : node.elseBranch.Unremarkable) (hbranch : branch.Unremarkable) :
    AgreeAround (old.map (within [2])) (new.map (within [2])) node.toStatement.placedFindings
      { node with elseBranch := branch }.toStatement.placedFindings := by
  have hchanged := (h.map (within [2])).append
    (node.placedFindings ++ node.thenBranch.placedFindings.map (within [1])) []
  rw [List.append_nil, List.append_nil] at hchanged
  rw [Statement.placedFindings_ifElse, Statement.placedFindings_ifElse,
    IfStatement.placedFindings_elseBranch hnode hbranch]
  exact hchanged

/-- Changing one statement of a list changes the findings in that statement. -/
theorem modify {statements : List Statement} {i : Nat} {part : Statement}
    (hpart : statements[i]? = some part) {change : Statement → Statement}
    (h : AgreeAround old new part.placedFindings (change part).placedFindings) (first : Nat) :
    AgreeAround (old.map (within [first + i])) (new.map (within [first + i]))
      (Statement.placedFindingsFrom first statements)
      (Statement.placedFindingsFrom first (statements.modify i change)) := by
  induction statements generalizing i first with
  | nil => cases hpart
  | cons s rest ih =>
    cases i with
    | zero =>
      obtain rfl : s = part := by simpa using hpart
      have hhead := (h.map (within [first])).append []
        (Statement.placedFindingsFrom (first + 1) rest)
      simpa using hhead
    | succ i =>
      have htail := ih (by simpa using hpart) (first + 1)
      have hrest := htail.append (s.placedFindings.map (within [first])) []
      rw [Nat.add_right_comm, Nat.add_assoc] at hrest
      simpa using hrest

variable {node edited : IfStatement} {change : Statement → Statement}

/-- Changing a conditional inside a statement changes the findings there, as far as they change in
the conditional itself. -/
theorem updateAt
    (h : AgreeAround old new node.toStatement.placedFindings edited.toStatement.placedFindings)
    (hchange : change node.toStatement = edited.toStatement) {s : Statement} {address : List Nat}
    (hreach : Statement.Reaches node.toStatement s address) :
    AgreeAround (old.map (within address)) (new.map (within address)) s.placedFindings
      (Statement.updateAt change address s).placedFindings := by
  have hinside {s : Statement} {address : List Nat}
      (hreach : Statement.Reaches node.toStatement s address) :
      s.Unremarkable ∧ (Statement.updateAt change address s).Unremarkable := by
    have hchanged := hreach.updateAt change
    rw [hchange] at hchanged
    exact ⟨hreach.unremarkable, hchanged.unremarkable⟩
  induction hreach with
  | here =>
    rw [Statement.updateAt, hchange]
    simpa using h
  | @thenBranch condition branch elseBranch span address hbranch ih =>
    rw [PlacedFinding.map_within_cons, PlacedFinding.map_within_cons 1 address new]
    let outer : IfStatement := ⟨condition, branch, elseBranch, span⟩
    have hbefore : outer.thenBranch.Unremarkable := (hinside hbranch).1
    exact ih.thenBranch hbefore (hinside hbranch).2
  | @elseBranch condition thenBranch branch span address hbranch ih =>
    rw [PlacedFinding.map_within_cons, PlacedFinding.map_within_cons 2 address new]
    let outer : IfStatement := ⟨condition, thenBranch, branch, span⟩
    have hbefore : outer.elseBranch.Unremarkable := (hinside hbranch).1
    exact ih.elseBranch hbefore (hinside hbranch).2
  | @inBlock statements i part span address hpart _ ih =>
    rw [PlacedFinding.map_within_cons, PlacedFinding.map_within_cons i address new,
      Statement.updateAt, Statement.placedFindings_block, Statement.placedFindings_block]
    simpa using ih.modify hpart 0

/-- Changing a conditional in a program changes the findings of the program, as far as they change
in the conditional itself. -/
theorem updateAllAt
    (h : AgreeAround old new node.toStatement.placedFindings edited.toStatement.placedFindings)
    (hchange : change node.toStatement = edited.toStatement) {program : List Statement}
    {address : List Nat}
    (hplaced : WorkItem.placedAt? program address = some (.statement node.toStatement)) :
    AgreeAround (old.map (within address)) (new.map (within address))
      (Statement.allPlacedFindings program)
      (Statement.allPlacedFindings (Statement.updateAllAt change address program)) := by
  obtain ⟨i, inner, s, rfl, hs, hreach⟩ := Statement.exists_reaches_of_placedAt? hplaced
  have hprogram := (h.updateAt hchange hreach).modify hs 0
  rw [Nat.zero_add, ← PlacedFinding.map_within_cons, ← PlacedFinding.map_within_cons] at hprogram
  exact hprogram

/-- Without its empty block, a conditional lacks the finding about it. -/
theorem withoutElse {span : Span} (h : node.elseBranch = .block [] span) :
    AgreeAround [⟨[2], .emptyElseBlock span⟩] [] node.toStatement.placedFindings
      { node with elseBranch := .empty }.toStatement.placedFindings := by
  have hfindings : node.elseFindings = [.emptyElseBlock span] := by
    rw [IfStatement.elseFindings, h]
  refine ⟨node.thenFindings.map (⟨[], ·⟩), node.condition.findings.map (⟨[0], ·⟩) ++
    node.thenBranch.placedFindings.map (within [1]), ?_, ?_⟩
  · rw [Statement.placedFindings_ifElse, IfStatement.placedFindings, hfindings, h]
    simp
  · rw [Statement.placedFindings_ifElse, IfStatement.placedFindings]
    simp [IfStatement.elseFindings, IfStatement.thenFindings]

/-- With something that is in order in place of its empty then branch, a conditional lacks the
finding about that. -/
theorem withThen {branch : Statement} (h : node.thenBranch = .empty) (hbranch : branch ≠ .empty)
    (hclean : branch.placedFindings = []) :
    AgreeAround [⟨[], .emptyThenBranch node.span⟩] [] node.toStatement.placedFindings
      { node with thenBranch := branch }.toStatement.placedFindings := by
  have hfindings : node.thenFindings = [.emptyThenBranch node.span] := by
    rw [IfStatement.thenFindings, h]
  have hnone : { node with thenBranch := branch }.thenFindings = [] :=
    IfStatement.thenFindings_eq_nil hbranch
  refine ⟨[], node.elseFindings.map (⟨[2], ·⟩) ++ node.condition.findings.map (⟨[0], ·⟩) ++
    node.elseBranch.placedFindings.map (within [2]), ?_, ?_⟩
  · rw [Statement.placedFindings_ifElse, IfStatement.placedFindings, hfindings, h]
    simp
  · rw [Statement.placedFindings_ifElse, IfStatement.placedFindings, hnone, hclean]
    simp [IfStatement.elseFindings]

end AgreeAround

/-- Whether a program has a finding once, the validator reports it as the given entry, and what is
reported of the edited program is what is reported of the program, in the same order, without this
entry. -/
def PlacedFinding.OnlyResolved (f : PlacedFinding) (entry : Diagnostic)
    (program edited : List Statement) : Prop :=
  ∃ front back, Statement.allPlacedFindings program = front ++ f :: back ∧
    f ∉ front ∧ f ∉ back ∧
    (validate program).1 = front.map (·.finding.toDiagnostic) ++
      entry :: back.map (·.finding.toDiagnostic) ∧
    (validate edited).1 = (front ++ back).map (·.finding.toDiagnostic)

/-- As long as the validator is not at its limit, what goes from the findings goes from what it
reports. -/
theorem AgreeAround.onlyResolved {f : PlacedFinding} {program edited : List Statement}
    (h : AgreeAround [f] [] (Statement.allPlacedFindings program)
      (Statement.allPlacedFindings edited))
    (hfew : (Statement.findingsAll program).length ≤ maxDiagnostics) :
    f.OnlyResolved f.finding.toDiagnostic program edited := by
  obtain ⟨front, back, hbefore, hafter⟩ := h
  rw [List.append_assoc, List.singleton_append] at hbefore
  rw [List.append_nil] at hafter
  rw [← Statement.map_finding_allPlacedFindings, List.length_map, hbefore] at hfew
  have hless : (front ++ back).length ≤ maxDiagnostics := by
    simp only [List.length_append, List.length_cons] at hfew ⊢
    omega
  have honce := Statement.nodup_allPlacedFindings program
  rw [hbefore, List.nodup_middle, List.nodup_cons, List.mem_append, not_or] at honce
  refine ⟨front, back, hbefore, honce.1.1, honce.1.2, ?_, ?_⟩
  · rw [validate_fst, hbefore, List.take_of_length_le hfew, List.map_append, List.map_cons]
  · rw [validate_fst, hafter, List.take_of_length_le hless]

/-- A statement that the validator has nothing to report about has no findings in it. -/
theorem Statement.placedFindings_eq_nil {s : Statement} (h : (validate [s]).1 = []) :
    s.placedFindings = [] := by
  have hplaced : allPlacedFindings [s] = s.placedFindings.map (within [0]) := by
    simp [allPlacedFindings]
  have hfirst : s.placedFindings.take maxDiagnostics = [] := by
    simpa [validate_fst, hplaced] using h
  exact (List.take_eq_nil_iff.mp hfirst).resolve_left (by decide)

/-- An edit that takes one finding away from the edited conditional resolves this finding alone. -/
theorem AgreeAround.onlyResolved_of_change {node edited : IfStatement} {inner : List Nat}
    {finding : Finding}
    (h : AgreeAround [⟨inner, finding⟩] [] node.toStatement.placedFindings
      edited.toStatement.placedFindings)
    {edit : Edit} (hedit : edit.change node.toStatement = edited.toStatement)
    {program : List Statement} (hfew : (Statement.findingsAll program).length ≤ maxDiagnostics)
    {address : List Nat}
    (hnode : WorkItem.placedAt? program address = some (.statement node.toStatement)) :
    WorkItem.placedAt? (edit.performAt address program) address =
        some (.statement edited.toStatement) ∧
      PlacedFinding.OnlyResolved ⟨address ++ inner, finding⟩ finding.toDiagnostic program
        (edit.performAt address program) := by
  constructor
  · rw [← hedit]
    exact Statement.placedAt?_updateAllAt hnode edit.change
  · exact (h.updateAllAt hedit hnode).onlyResolved hfew

/-- Each of the two hints about branches can be followed for any conditional of a program that the
validator reports on in full: the `else` with an empty block is dropped, or something that is
itself in order is put into the empty then branch. The validator then reports what it reported
before, in the same order, without the one entry about the edited conditional, which gave the
hint. -/
theorem PlacedFinding.onlyResolved_performAt {program : List Statement}
    (hfew : (Statement.findingsAll program).length ≤ 256) {address : List Nat}
    {node : IfStatement}
    (hnode : WorkItem.placedAt? program address = some (.statement node.toStatement)) :
    (∀ span, node.elseBranch = .block [] span →
      let edited := (Edit.setElseBranch none).performAt address program
      WorkItem.placedAt? edited address =
          some (.statement { node with elseBranch := .empty }.toStatement) ∧
        OnlyResolved ⟨address ++ [2], .emptyElseBlock span⟩
          ⟨.warning, "empty else block", span, some "drop the `else` clause"⟩ program edited) ∧
    (node.thenBranch = .empty → ∀ branch, branch ≠ .empty → (validate [branch]).1 = [] →
      let edited := (Edit.setThenBranch (some branch)).performAt address program
      WorkItem.placedAt? edited address =
          some (.statement { node with thenBranch := branch }.toStatement) ∧
        OnlyResolved ⟨address, .emptyThenBranch node.span⟩
          ⟨.warning, "empty then-branch", node.span, some "nothing runs when the condition holds"⟩
          program edited) := by
  constructor
  · intro span helse
    exact (AgreeAround.withoutElse helse).onlyResolved_of_change rfl hfew hnode
  · intro hthen branch hbranch hvalid
    have hclean : branch.placedFindings = [] := Statement.placedFindings_eq_nil hvalid
    have hedit : (Edit.setThenBranch (some branch)).change node.toStatement =
        { node with thenBranch := branch }.toStatement := rfl
    have hresolved :=
      (AgreeAround.withThen hthen hbranch hclean).onlyResolved_of_change hedit hfew hnode
    rwa [List.append_nil] at hresolved

/-- A conditional in a block in a then branch, to which both hints apply: whichever is followed, the
finding about its condition stays, and so does the one about the conditional behind. -/
theorem PlacedFinding.onlyResolved_performAt_nested :
    let node : IfStatement :=
      ⟨⟨.constant (.boolean true), ⟨2, 3⟩⟩, .empty, .block [] ⟨4, 6⟩, ⟨1, 7⟩⟩
    let program : List Statement :=
      [.ifElse ⟨.var ⟨"x", {}⟩, {}⟩ (.block [node] ⟨0, 8⟩) .empty ⟨0, 8⟩,
        .ifElse ⟨.var ⟨"y", {}⟩, {}⟩ .empty .empty ⟨9, 10⟩]
    let dropped := (Edit.setElseBranch none).performAt [0, 1, 0] program
    let filled := (Edit.setThenBranch (some (.block [] ⟨4, 5⟩))).performAt [0, 1, 0] program
    OnlyResolved ⟨[0, 1, 0, 2], .emptyElseBlock ⟨4, 6⟩⟩
        ⟨.warning, "empty else block", ⟨4, 6⟩, some "drop the `else` clause"⟩ program dropped ∧
      OnlyResolved ⟨[0, 1, 0], .emptyThenBranch ⟨1, 7⟩⟩
        ⟨.warning, "empty then-branch", ⟨1, 7⟩, some "nothing runs when the condition holds"⟩
        program filled ∧
      (validate program).1.map (·.span) = [⟨1, 7⟩, ⟨4, 6⟩, ⟨2, 3⟩, ⟨9, 10⟩] ∧
      (validate dropped).1.map (·.span) = [⟨1, 7⟩, ⟨2, 3⟩, ⟨9, 10⟩] ∧
      (validate filled).1.map (·.span) = [⟨4, 6⟩, ⟨2, 3⟩, ⟨9, 10⟩] := by
  intro node program dropped filled
  have hfew : (Statement.findingsAll program).length ≤ 256 := by decide
  have hnode : WorkItem.placedAt? program [0, 1, 0] = some (.statement node.toStatement) := rfl
  obtain ⟨hdrop, hfill⟩ := onlyResolved_performAt hfew hnode
  have hclean : (validate [.block [] ⟨4, 5⟩]).1 = [] := by decide
  exact ⟨(hdrop ⟨4, 6⟩ rfl).2, (hfill rfl (.block [] ⟨4, 5⟩) Statement.noConfusion hclean).2,
    by decide, by decide, by decide⟩

end StatementTree
