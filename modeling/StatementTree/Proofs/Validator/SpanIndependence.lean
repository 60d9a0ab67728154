import Mathlib.Data.List.Forall2
import StatementTree.Proofs.Printer.Lines
import StatementTree.Proofs.Text.Spanless
import StatementTree.Proofs.Validator.PlacedFindings

/-!
# Spans are only reported

Two programs that differ in nothing but their spans have the same places, and what stands at a
place looks the same in both. They print the same, and the validator finds the same at the same
places. Only the spans of its diagnostics differ, and these are the spans of the nodes that the
diagnostics are about.
-/

namespace StatementTree

open Visitor (WorkItem)

namespace Visitor.WorkItem

/-- What is to be visited, without any spans. -/
def spanless : WorkItem → WorkItem
  | condition c => condition c.spanless
  | statement s => statement s.spanless

/-- Where the node to be visited stands in the source. -/
def span : WorkItem → Span
  | condition c => c.span
  | statement s => s.span

/-- Two items that cannot be told apart without their spans: statements with one text, and
conditions with one text that are constant in the same way. -/
inductive LooksLike : WorkItem → WorkItem → Prop
  | condition {c d : Condition} (text : c.text = d.text)
    (constant : c.constantValue? = d.constantValue?) : LooksLike (condition c) (condition d)
  | statement {s t : Statement} (text : s.text = t.text) : LooksLike (statement s) (statement t)

/-- What is equal without spans looks the same. -/
theorem looksLike_of_spanless_eq {a b : WorkItem} (h : a.spanless = b.spanless) :
    LooksLike a b := by
  cases a with
  | condition c =>
    cases b with
    | condition d =>
      have hspanless : c.spanless = d.spanless := condition.inj h
      constructor
      · rw [← c.text_spanless, hspanless, d.text_spanless]
      · rw [← c.constantValue?_spanless, hspanless, d.constantValue?_spanless]
    | statement t => cases h
  | statement s =>
    cases b with
    | condition d => cases h
    | statement t =>
      have hspanless : s.spanless = t.spanless := statement.inj h
      constructor
      rw [← s.text_spanless, hspanless, t.text_spanless]

/-- The parts lose their spans with the whole. -/
theorem parts_spanless (item : WorkItem) : item.spanless.parts = item.parts.map spanless := by
  cases item with
  | condition c => rfl
  | statement s =>
    cases s with
    | block statements span =>
      simp [spanless, parts, ofBlock, Statement.spanless, Statement.spanlessAll_eq_map]
    | _ => rfl

/-- What stands at an address inside an item loses its spans with the item. -/
theorem partAt?_spanless (item : WorkItem) (address : List Nat) :
    item.spanless.partAt? address = (item.partAt? address).map spanless := by
  induction address generalizing item with
  | nil => rfl
  | cons i address ih =>
    rw [partAt?, partAt?, parts_spanless, List.getElem?_map]
    cases item.parts[i]? with
    | none => rfl
    | some part => exact ih part

/-- What stands at an address in a program loses its spans with the program. -/
theorem placedAt?_spanlessAll (program : List Statement) (address : List Nat) :
    placedAt? (Statement.spanlessAll program) address =
      (placedAt? program address).map spanless := by
  cases address with
  | nil => rfl
  | cons i address =>
    rw [placedAt?, placedAt?, Statement.spanlessAll_eq_map, List.map_map, List.getElem?_map,
      List.getElem?_map]
    cases program[i]? with
    | none => rfl
    | some s => exact partAt?_spanless (statement s) address

/-- Programs that are equal up to spans have the same places, and what stands there looks the
same. -/
theorem placedAt?_looksLike {ss ts : List Statement}
    (h : Statement.spanlessAll ss = Statement.spanlessAll ts) (address : List Nat) :
    Option.Rel LooksLike (placedAt? ss address) (placedAt? ts address) := by
  have hplaced : (placedAt? ss address).map spanless = (placedAt? ts address).map spanless := by
    rw [← placedAt?_spanlessAll, h, placedAt?_spanlessAll]
  cases hss : placedAt? ss address with
  | none =>
    rw [hss] at hplaced
    rw [Option.map_eq_none_iff.mp hplaced.symm]
    exact .none
  | some a =>
    rw [hss] at hplaced
    obtain ⟨b, hts, hab⟩ := Option.map_eq_some_iff.mp hplaced.symm
    rw [hts]
    exact .some (looksLike_of_spanless_eq hab.symm)

end Visitor.WorkItem

/-- Spans are not printed in a line. -/
theorem Printer.lineOf_spanless (s : Statement) : lineOf s.spanless = lineOf s := by
  rw [lineOf, lineOf, s.isBlock_spanless, s.text_spanless]

/-- Spans are not printed. -/
theorem print_spanlessAll (program : List Statement) :
    print (Statement.spanlessAll program) = print program := by
  rw [print, print, printWith_eq, printWith_eq, Statement.spanlessAll_eq_map, List.map_map,
    List.length_map]
  congr 2
  exact List.map_congr_left fun s _ => Printer.lineOf_spanless s

/-- Spans are not written in the texts of statements. -/
theorem Statement.map_text_spanlessAll (program : List Statement) :
    (spanlessAll program).map text = program.map text := by
  rw [spanlessAll_eq_map, List.map_map]
  exact List.map_congr_left fun s _ => s.text_spanless

/-- A finding without the place that it reports. -/
def Finding.spanless : Finding → Finding
  | emptyThenBranch _ => emptyThenBranch {}
  | emptyElseBlock _ => emptyElseBlock {}
  | constantCondition value _ => constantCondition value {}

/-- What a diagnostic says, apart from where. -/
def Diagnostic.content (d : Diagnostic) : Severity × String × Option String :=
  (d.severity, d.message, d.hint)

/-- What a diagnostic says does not depend on the place of the finding. -/
theorem Finding.content_toDiagnostic (f : Finding) :
    f.toDiagnostic.content = f.spanless.toDiagnostic.content := by
  cases f <;> rfl

/-- A finding at its address, without the place that it reports. -/
def PlacedFinding.spanless (f : PlacedFinding) : PlacedFinding :=
  { f with finding := f.finding.spanless }

/-- A conditional without any spans. -/
def IfStatement.spanless (node : IfStatement) : IfStatement :=
  ⟨node.condition.spanless, node.thenBranch.spanless, node.elseBranch.spanless, {}⟩

/-- Without spans a conditional has the same findings at the same places. -/
theorem IfStatement.placedFindings_spanless (node : IfStatement) :
    node.spanless.placedFindings = node.placedFindings.map PlacedFinding.spanless := by
  have hthen : node.spanless.thenFindings = node.thenFindings.map Finding.spanless := by
    unfold thenFindings spanless
    cases node.thenBranch <;> rfl
  have helse : node.spanless.elseFindings = node.elseFindings.map Finding.spanless := by
    unfold elseFindings spanless
    cases node.elseBranch with
    | block statements span => cases statements <;> rfl
    | _ => rfl
  have hcondition : node.spanless.condition.findings =
      node.condition.findings.map Finding.spanless := by
    have hvalue := node.condition.constantValue?_spanless
    cases hconstant : node.condition.constantValue? with
    | none =>
      rw [hconstant] at hvalue
      rw [Condition.findings_of_eq_none hconstant]
      exact Condition.findings_of_eq_none hvalue
    | some value =>
      rw [hconstant] at hvalue
      rw [Condition.findings_of_eq_some hconstant]
      exact Condition.findings_of_eq_some hvalue
  simp [placedFindings, hthen, helse, hcondition, PlacedFinding.spanless, Function.comp_def]

namespace Statement

/-- Without spans a list has the same findings, when this is so of each statement. -/
private theorem placedFindingsFrom_spanlessAll {statements : List Statement}
    (h : ∀ s ∈ statements,
      s.spanless.placedFindings = s.placedFindings.map PlacedFinding.spanless) (i : Nat) :
    placedFindingsFrom i (spanlessAll statements) =
      (placedFindingsFrom i statements).map PlacedFinding.spanless := by
  induction statements generalizing i with
  | nil => simp [spanlessAll]
  | cons s rest ih =>
    have hrest := ih (fun t ht => h t (List.mem_cons_of_mem _ ht)) (i + 1)
    simp [spanlessAll, h s (by simp), hrest, PlacedFinding.spanless, PlacedFinding.within,
      Function.comp_def]

/-- Without spans there are the same findings at the same places. -/
theorem placedFindings_spanless (s : Statement) :
    s.spanless.placedFindings = s.placedFindings.map PlacedFinding.spanless := by
  induction s with
  | ifElse condition thenBranch elseBranch span ihthen ihelse =>
    let node : IfStatement := ⟨condition, thenBranch, elseBranch, span⟩
    have hspanless : node.toStatement.spanless = node.spanless.toStatement := rfl
    change node.toStatement.spanless.placedFindings =
      node.toStatement.placedFindings.map PlacedFinding.spanless
    rw [hspanless, placedFindings_ifElse, placedFindings_ifElse, node.placedFindings_spanless]
    simp only [IfStatement.spanless, node, ihthen, ihelse, List.map_append, List.map_map]
    rfl
  | block statements span ih =>
    rw [spanless, placedFindings_block, placedFindings_block]
    exact placedFindingsFrom_spanlessAll ih 0
  | expression expr span => simp [spanless]
  | returning value span => simp [spanless]
  | empty => rfl

/-- Programs that are equal up to spans have the same findings at the same places. -/
theorem map_spanless_allPlacedFindings {ss ts : List Statement}
    (h : spanlessAll ss = spanlessAll ts) :
    (allPlacedFindings ss).map PlacedFinding.spanless =
      (allPlacedFindings ts).map PlacedFinding.spanless := by
  have hspanless (program : List Statement) : allPlacedFindings (spanlessAll program) =
      (allPlacedFindings program).map PlacedFinding.spanless :=
    placedFindingsFrom_spanlessAll (fun s _ => s.placedFindings_spanless) 0
  rw [← hspanless, h, hspanless]

end Statement

/-- The validator reports that it dropped findings exactly when there were more than it records. -/
theorem limitReached_mem_validate_iff (program : List Statement) (dropped limit : Nat) :
    Event.limitReached dropped limit ∈ (validate program).2 ↔
      0 < dropped ∧ dropped = (Statement.allPlacedFindings program).length - maxDiagnostics ∧
        limit = maxDiagnostics := by
  have hrecords := Validator.records_visitAll program
  have hlength : (Statement.findingsAll program).length =
      (Statement.allPlacedFindings program).length := by
    rw [← Statement.map_finding_allPlacedFindings, List.length_map]
  have hrecorded (recorded : List Diagnostic) :
      Event.limitReached dropped limit ∉ recorded.map Event.findingRecorded := by simp
  rw [validate, Validator.finish, hrecords.log, hrecords.dropped, hlength, List.mem_append]
  split
  case isTrue hpos =>
    simp only [hrecorded, List.mem_singleton, Event.limitReached.injEq, false_or]
    exact ⟨fun h => ⟨h.1 ▸ hpos, h⟩, And.right⟩
  case isFalse hpos =>
    simp only [hrecorded, List.not_mem_nil, or_self, false_iff]
    exact fun ⟨hdropped, hcount, _⟩ => hpos (hcount ▸ hdropped)

/-- The contents of the diagnostics do not depend on spans. -/
theorem validate_content (program : List Statement) :
    (validate program).1.map Diagnostic.content =
      (((Statement.allPlacedFindings program).map PlacedFinding.spanless).take maxDiagnostics).map
        (·.finding.toDiagnostic.content) := by
  rw [validate_fst, ← List.map_take, List.map_map, List.map_map]
  exact List.map_congr_left fun f _ => f.finding.content_toDiagnostic

/-- What is reported about a node has the span of the node. -/
theorem PlacedFinding.StandsIn.map_span_placedAt? {program : List Statement} {f : PlacedFinding}
    (h : f.StandsIn program) :
    (WorkItem.placedAt? program f.address).map WorkItem.span =
      some f.finding.toDiagnostic.span := by
  obtain ⟨address, finding⟩ := f
  cases finding with
  | emptyThenBranch span =>
    obtain ⟨condition, elseBranch, hplaced⟩ := h
    exact congrArg (Option.map WorkItem.span) hplaced
  | emptyElseBlock span =>
    obtain ⟨hplaced, -⟩ := h
    exact congrArg (Option.map WorkItem.span) hplaced
  | constantCondition value span =>
    obtain ⟨condition, hplaced, -, rfl⟩ := h
    exact congrArg (Option.map WorkItem.span) hplaced

/-- The diagnostics are about the nodes at the addresses of the first findings, and have the spans
of these nodes. -/
theorem validate_forall₂_standsIn (program : List Statement) :
    List.Forall₂ (fun d address =>
        (WorkItem.placedAt? program address).map WorkItem.span = some d.span ∧
          ∃ finding : Finding, d = finding.toDiagnostic ∧
            PlacedFinding.StandsIn program ⟨address, finding⟩)
      (validate program).1
      (((Statement.allPlacedFindings program).take maxDiagnostics).map (·.address)) := by
  rw [validate_fst, List.forall₂_map_left_iff, List.forall₂_map_right_iff, List.forall₂_same]
  intro f hf
  have hstands : f.StandsIn program := Statement.standsIn_of_mem (List.mem_of_mem_take hf)
  exact ⟨hstands.map_span_placedAt?, f.finding, rfl, hstands⟩

/-- Programs that are equal up to spans look the same at every place and print the same. The
validator says the same about both, drops the same number of findings, and the two diagnostics at
one position are about nodes with one address; each of them has the span of its own node. -/
theorem observations_eq_of_spanlessAll_eq {ss ts : List Statement}
    (h : Statement.spanlessAll ss = Statement.spanlessAll ts) :
    (∀ address, Option.Rel WorkItem.LooksLike
        (WorkItem.placedAt? ss address) (WorkItem.placedAt? ts address)) ∧
      ss.map Statement.text = ts.map Statement.text ∧
      print ss = print ts ∧
      (validate ss).1.map (fun d => (d.severity, d.message, d.hint)) =
        (validate ts).1.map (fun d => (d.severity, d.message, d.hint)) ∧
      (∀ dropped limit, Event.limitReached dropped limit ∈ (validate ss).2 ↔
        Event.limitReached dropped limit ∈ (validate ts).2) ∧
      ∃ addresses : List (List Nat), ∀ program ∈ [ss, ts],
        List.Forall₂ (fun d address =>
            (WorkItem.placedAt? program address).map WorkItem.span = some d.span ∧
              ∃ finding : Finding, d = finding.toDiagnostic ∧
                PlacedFinding.StandsIn program ⟨address, finding⟩)
          (validate program).1 addresses := by
  have hfindings := Statement.map_spanless_allPlacedFindings h
  have haddresses : (Statement.allPlacedFindings ss).map (·.address) =
      (Statement.allPlacedFindings ts).map (·.address) := by
    have hmap := congrArg (List.map PlacedFinding.address) hfindings
    rw [List.map_map, List.map_map] at hmap
    exact hmap
  have hlength : (Statement.allPlacedFindings ss).length =
      (Statement.allPlacedFindings ts).length := by
    simpa using congrArg List.length haddresses
  refine ⟨WorkItem.placedAt?_looksLike h, ?_, ?_, ?_, ?_, ?_⟩
  · rw [← Statement.map_text_spanlessAll, h, Statement.map_text_spanlessAll]
  · rw [← print_spanlessAll, h, print_spanlessAll]
  · change (validate ss).1.map Diagnostic.content = (validate ts).1.map Diagnostic.content
    rw [validate_content, hfindings, validate_content]
  · intro dropped limit
    rw [limitReached_mem_validate_iff, limitReached_mem_validate_iff, hlength]
  · refine ⟨((Statement.allPlacedFindings ss).take maxDiagnostics).map (·.address), ?_⟩
    intro program hprogram
    have hprogram : (Statement.allPlacedFindings ss).map (·.address) =
        (Statement.allPlacedFindings program).map (·.address) := by
      rcases List.mem_pair.mp hprogram with rfl | rfl
      · rfl
      · exact haddresses
    rw [List.map_take, hprogram, ← List.map_take]
    exact validate_forall₂_standsIn program

/-- A conditional with an empty then branch, an empty else block and a constant condition, inside
another one: moved to inverted and huge spans, it is reported with the same words elsewhere. -/
theorem observations_eq_of_spanlessAll_eq_moved :
    let program (a b c d e : Span) : List Statement :=
      [.ifElse ⟨.var ⟨"x", a⟩, b⟩
        (.ifElse ⟨.paren (.constant (.boolean true)), c⟩ .empty (.block [] d) e) .empty a]
    let ss := program ⟨0, 9⟩ ⟨4, 5⟩ ⟨6, 7⟩ ⟨7, 8⟩ ⟨8, 9⟩
    let ts := program {} ⟨9, 1⟩ ⟨2, 0⟩ ⟨1, 18446744073709551615⟩ ⟨5, 5⟩
    Statement.spanlessAll ss = Statement.spanlessAll ts ∧
      (validate ss).1.map (fun d => (d.severity, d.message, d.hint)) =
        (validate ts).1.map (fun d => (d.severity, d.message, d.hint)) ∧
      (validate ss).1.map (·.span) = [⟨8, 9⟩, ⟨7, 8⟩, ⟨6, 7⟩] ∧
      (validate ts).1.map (·.span) = [⟨5, 5⟩, ⟨1, 18446744073709551615⟩, ⟨2, 0⟩] := by
  intro program ss ts
  have h : Statement.spanlessAll ss = Statement.spanlessAll ts := rfl
  obtain ⟨-, -, -, hcontent, -, -⟩ := observations_eq_of_spanlessAll_eq h
  exact ⟨h, hcontent, by decide, by decide⟩

end StatementTree
