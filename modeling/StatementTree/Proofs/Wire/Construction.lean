import StatementTree.Proofs.Wire.Acceptance
import StatementTree.Proofs.Wire.RecordType
import StatementTree.Statement.Edit

/-!
# Decoding a conditional

A conditional is read part by part and then built. What is wrong with a part, or with the number of
elements of an array, is reported before a part that is lacking, and a lacking condition before a
lacking then branch. Only when nothing is wrong and nothing is lacking there is a conditional, and
it is the one that is built from its parts.
-/

namespace StatementTree

namespace RecordField

/-- Whether every field can be read where it is written. -/
def AllRead (fields : List RecordField) : Layout → Prop
  | .named members => ∀ f ∈ fields, f.ReadIn members
  | .positional items => ∀ p ∈ fields.zip items, p.1.Reads p.2

/-- Whether `j` is written for the field `f`, cannot be read for the error `e`, and is the first
such value in the order in which the record is decoded: by keys in an object, and in the order of
declaration in an array. -/
def FailsFirst (fields : List RecordField) (f : RecordField) (j : Json) (e : DecodeError) :
    Layout → Prop
  | .named members => f ∈ fields ∧ members.lookup f.key = some j ∧ f.decode j = .error e ∧
      ∀ g ∈ fields, g.key < f.key → g.ReadIn members
  | .positional items => ∃ before after, fields.zip items = before ++ (f, j) :: after ∧
      f.decode j = .error e ∧ ∀ p ∈ before, p.1.Reads p.2

variable {fields : List RecordField} {f : RecordField} {l : Layout} {j : Json} {e : DecodeError}

/-- A value that fails first cannot be read. -/
theorem FailsFirst.decode_eq (h : FailsFirst fields f j e l) : f.decode j = .error e := by
  cases l with
  | named members => exact h.2.2.1
  | positional items =>
    obtain ⟨before, after, -, he, -⟩ := h
    exact he

/-- What fails first belongs to one of the fields. -/
theorem FailsFirst.mem (h : FailsFirst fields f j e l) : f ∈ fields := by
  cases l with
  | named members => exact h.1
  | positional items =>
    obtain ⟨before, after, hzip, -⟩ := h
    have hmem : (f, j) ∈ fields.zip items := by simp [hzip]
    exact (List.of_mem_zip hmem).1

/-- What is written for a field is smaller than the record. -/
theorem FailsFirst.sizeOf_lt {record : Json} (hl : record.layout? = some l)
    (h : FailsFirst fields f j e l) : sizeOf j < sizeOf record := by
  cases l with
  | named members =>
    have hslot : (Layout.named members).slot? 0 f.key = some j := h.2.1
    exact Layout.sizeOf_slot_lt hl hslot
  | positional items =>
    obtain ⟨before, after, hzip, -⟩ := h
    have hmem : (f, j) ∈ fields.zip items := by simp [hzip]
    obtain ⟨index, hindex⟩ := List.getElem?_of_mem (List.of_mem_zip hmem).2
    have hslot : (Layout.positional items).slot? index f.key = some j := hindex
    exact Layout.sizeOf_slot_lt hl hslot

/-- A record in which not every field can be read has a first field that cannot. -/
theorem allRead_or_failsFirst (fields : List RecordField) (l : Layout) :
    AllRead fields l ∨ ∃ f j e, FailsFirst fields f j e l := by
  cases l with
  | named members =>
    cases hfault : Layout.firstFault? (flawsFrom (.named members) 0 fields) with
    | none =>
      exact .inl (unreadable_notMem_flawsFrom.mp (Layout.firstFault?_eq_none_iff.mp hfault))
    | some e =>
      obtain ⟨f, hf, j, hj, he, hleast⟩ :=
        least_unreadable_iff.mp (Layout.least_of_firstFault? hfault)
      exact .inr ⟨f, j, e, hf, hj, he, hleast⟩
  | positional items =>
    by_cases hall : ∀ p ∈ fields.zip items, p.1.Reads p.2
    · exact .inl hall
    · have hflawed := mt (flatMap_flaws_eq_nil_iff (.positional items) _).mp hall
      obtain ⟨flaw, rest, hcons⟩ := List.exists_cons_of_ne_nil hflawed
      obtain ⟨before, f, j, after, hzip, he, hbefore⟩ :=
        head?_flatMap_flaws.mp ⟨flaw, by rw [hcons]; rfl, rfl⟩
      exact .inr ⟨f, j, _, before, after, hzip, he, hbefore⟩

/-- A record is refused for its first field that cannot be read. -/
theorem FailsFirst.conclude_eq {α : Type} {r : Reading α} (h : FailsFirst fields f j e l)
    (hkeys : (fields.map key).Nodup) (hr : r.flaws = flawsFrom l 0 fields) :
    l.conclude fields.length r = .error e := by
  cases l with
  | named members =>
    obtain ⟨hf, hj, he, hleast⟩ := h
    exact (conclude_named_iff hkeys hr).mpr (.inl ⟨f, hf, j, hj, he, hleast⟩)
  | positional items =>
    obtain ⟨before, after, hzip, he, hbefore⟩ := h
    exact (conclude_positional_iff hr).mpr (.inl ⟨before, f, j, after, hzip, he, hbefore⟩)

/-- Where every field can be read or left out there is nothing wrong with the fields. -/
theorem AllRead.flawsFrom_eq_nil (h : AllRead fields l) (hdefault : ∀ f ∈ fields, f.HasDefault) :
    flawsFrom l 0 fields = [] := by
  cases l with
  | named members =>
    rw [flawsFrom_named, List.flatMap_eq_nil_iff]
    intro f hf
    rcases flaws_of_readIn (h f hf) with ⟨-, hflaws⟩ | ⟨hmissing, -⟩
    · exact hflaws
    · obtain ⟨a, ha⟩ := hdefault f hf
      exact absurd (hmissing.2.symm.trans ha) (by simp)
  | positional items =>
    rw [flawsFrom_positional, List.append_eq_nil_iff]
    refine ⟨(flatMap_flaws_eq_nil_iff _ _).mpr h, flatMap_flaws_none_eq_nil_iff.mpr ?_⟩
    rintro ⟨f, hf, hnone⟩
    exact hnone (hdefault f (List.mem_of_mem_drop hf))

end RecordField

namespace Layout

variable {α : Type}

/-- Whether nothing is written for a part, or null is. -/
def Lacks (l : Layout) (index : Nat) (key : String) : Prop :=
  l.slot? index key = none ∨ l.slot? index key = some .null

/-- Whether something is written for a part and read as `a`. -/
def Holds (l : Layout) (index : Nat) (key : String) (decode : Json → Except DecodeError α)
    (a : α) : Prop :=
  ∃ j, l.slot? index key = some j ∧ decode j = .ok a

variable {l : Layout} {index : Nat} {key : String} {decode : Json → Except DecodeError α}

/-- What holds something is not lacking, when null cannot be read as it. -/
theorem Holds.not_lacks {a : α} {e : DecodeError} (hnull : decode .null = .error e)
    (h : l.Holds index key decode a) : ¬ l.Lacks index key := by
  obtain ⟨j, hj, ha⟩ := h
  rintro (hnone | hwritten)
  · simp [hj] at hnone
  · obtain rfl : j = .null := by simpa [hj] using hwritten
    simp [hnull] at ha

/-- A part is read as nothing when it is lacking. -/
theorem read_nullable_eq_none :
    l.read index key (.defaulted none) (Json.nullable decode) = .value none ↔
      l.Lacks index key := by
  rw [read_eq_value]
  unfold Lacks
  cases l.slot? index key with
  | none => cases l <;> simp [Leaves]
  | some j => simpa using Json.nullable_eq_ok_none

/-- A part is read as something when it holds that. -/
theorem read_nullable_eq_some {a : α} {e : DecodeError} (hnull : decode .null = .error e) :
    l.read index key (.defaulted none) (Json.nullable decode) = .value (some a) ↔
      l.Holds index key decode a := by
  rw [read_eq_value]
  unfold Holds
  cases l.slot? index key with
  | none => cases l <;> simp [Leaves]
  | some j => simpa using Json.nullable_eq_ok_some hnull

/-- The place of a node is the one that is written, or the default when none is. -/
theorem span_eq_value_iff {span : Span} :
    l.span index = .value span ↔
      l.slot? index "span" = none ∧ span = {} ∨ l.Holds index "span" Span.decode span := by
  rw [Layout.span, read_eq_value]
  unfold Holds
  cases l.slot? index "span" with
  | none => cases l <;> simp [Leaves, eq_comm]
  | some j => simp

end Layout

/-- The part that is named `condition` is the condition. -/
theorem BuildError.part_eq_condition_iff {error : BuildError} :
    error.part = "condition" ↔ error = .absentCondition := by
  cases error <;> decide

/-- The part that is named `then_branch` is the then branch. -/
theorem BuildError.part_eq_then_branch_iff {error : BuildError} :
    error.part = "then_branch" ↔ error = .absentThenBranch := by
  cases error <;> decide

namespace IfStatement

open RecordField (AllRead FailsFirst)

/-- The parts of a conditional: the condition, the then branch, the else branch and the place. -/
abbrev partFields : List RecordField := RecordType.ifParts.fields

/-- Whether all parts can be read and one is lacking, for which the conditional cannot be built. The
condition is asked for first. -/
def Incomplete (l : Layout) (error : BuildError) : Prop :=
  AllRead partFields l ∧ l.Fits 4 ∧
    (l.Lacks 0 "condition" ∧ error.part = "condition" ∨
      ¬ l.Lacks 0 "condition" ∧ l.Lacks 1 "then_branch" ∧ error.part = "then_branch")

/-- What the decoder of conditionals answers, said without it. -/
inductive Answers (l : Layout) : Except DecodeError IfStatement → Prop
  /-- A part that cannot be read comes first, even when another part is lacking. -/
  | unreadable {f : RecordField} {j : Json} {e : DecodeError} :
    FailsFirst partFields f j e l → Answers l (.error e)
  /-- Then comes an array that has more elements than there are parts. -/
  | tooLong : AllRead partFields l → ¬ l.Fits 4 → Answers l (.error .invalidLength)
  /-- Then comes a part that is lacking. -/
  | incomplete {error : BuildError} :
    Incomplete l error → Answers l (.error (.invalidArgument error))
  /-- Otherwise the conditional is made of its parts. Its else branch is empty when that is
  lacking. -/
  | built {condition : Condition} {thenBranch elseBranch : Statement} {span : Span} :
    l.Fits 4 →
    l.Holds 0 "condition" Condition.decode condition →
    l.Holds 1 "then_branch" Statement.decode thenBranch →
    (l.Lacks 2 "else_branch" ∧ elseBranch = .empty ∨
      l.Holds 2 "else_branch" Statement.decode elseBranch) →
    (l.slot? 3 "span" = none ∧ span = {} ∨ l.Holds 3 "span" Span.decode span) →
    Answers l (.ok ⟨condition, thenBranch, elseBranch, span⟩)

/-- A conditional that is built from all its parts and put in its place has just these parts. -/
theorem map_withSpan_ofParts (condition : Condition) (thenBranch : Statement)
    (elseBranch : Option Statement) (span : Span) :
    (ofParts (some condition) (some thenBranch) elseBranch).map (·.withSpan span) =
      .ok ⟨condition, thenBranch, elseBranch.getD .empty, span⟩ := rfl

variable {l : Layout} {j : Json}

/-- A conditional is concluded from its parts and then built. -/
theorem decode_eq_conclude (hl : j.layout? = some l) :
    decode j = (l.conclude 4 (IfParts.fields l)).bind IfParts.build := by
  rw [decode_eq, Json.record, hl]

/-- Once its parts have values and fit, what is left to do is to build the conditional. -/
theorem decode_eq_build {parts : IfParts} (hl : j.layout? = some l)
    (hparts : IfParts.fields l = .value parts) (hfits : l.Fits 4) :
    decode j = parts.build := by
  rw [decode_eq_conclude hl, Layout.conclude_eq_ok.mpr ⟨hparts, hfits⟩]
  rfl

/-- Where all parts can be read they have values: every part may be left out. -/
theorem exists_parts (h : AllRead partFields l) : ∃ parts, IfParts.fields l = .value parts := by
  have hdefault : ∀ f ∈ partFields, f.HasDefault := by
    simp [RecordType.fields, RecordField.HasDefault, RecordType.spanField]
  have hflaws : (IfParts.fields l).flaws = [] :=
    (RecordType.ifParts.flaws_reading l).trans (h.flawsFrom_eq_nil hdefault)
  cases hfields : IfParts.fields l with
  | value parts => exact ⟨parts, rfl⟩
  | flawed first rest => simp [hfields, Reading.flaws] at hflaws

/-- An array that has more elements than there are parts is refused for its length. -/
theorem conclude_eq_invalidLength {parts : IfParts} (hparts : IfParts.fields l = .value parts)
    (hlong : ¬ l.Fits 4) : l.conclude 4 (IfParts.fields l) = .error .invalidLength := by
  cases l with
  | named members => exact absurd trivial hlong
  | positional items =>
    rw [hparts]
    exact if_neg hlong

/-- What is described is what is decoded. -/
theorem Answers.decode_eq {answer : Except DecodeError IfStatement} (hl : j.layout? = some l)
    (h : Answers l answer) : decode j = answer := by
  cases h with
  | unreadable hfirst =>
    have hconclude : l.conclude 4 (IfParts.fields l) = .error _ :=
      hfirst.conclude_eq RecordType.ifParts.nodup_keys (RecordType.ifParts.flaws_reading l)
    rw [decode_eq_conclude hl, hconclude]
    rfl
  | tooLong hread hlong =>
    obtain ⟨parts, hparts⟩ := exists_parts hread
    rw [decode_eq_conclude hl, conclude_eq_invalidLength hparts hlong]
    rfl
  | incomplete hincomplete =>
    obtain ⟨hread, hfits, hlacks⟩ := hincomplete
    obtain ⟨⟨condition, thenBranch, elseBranch, span⟩, hparts⟩ := exists_parts hread
    obtain ⟨hcondition, hthen, -, -⟩ := IfParts.fields_eq_value.mp hparts
    rw [decode_eq_build hl hparts hfits]
    rcases hlacks with ⟨hlacks, hpart⟩ | ⟨hholds, hlacks, hpart⟩
    · obtain rfl : condition = none :=
        Reading.value.inj (hcondition.symm.trans (Layout.read_nullable_eq_none.mpr hlacks))
      obtain rfl := BuildError.part_eq_condition_iff.mp hpart
      rfl
    · obtain rfl : thenBranch = none :=
        Reading.value.inj (hthen.symm.trans (Layout.read_nullable_eq_none.mpr hlacks))
      obtain rfl := BuildError.part_eq_then_branch_iff.mp hpart
      cases condition with
      | none => exact absurd (Layout.read_nullable_eq_none.mp hcondition) hholds
      | some condition => rfl
  | @built condition thenBranch elseBranch span hfits hcondition hthen helse hspan =>
    obtain ⟨part, hread, rfl⟩ : ∃ part : Option Statement,
        l.read 2 "else_branch" (.defaulted none) (Json.nullable Statement.decode) = .value part ∧
          part.getD .empty = elseBranch := by
      rcases helse with ⟨hlacks, rfl⟩ | hholds
      · exact ⟨none, Layout.read_nullable_eq_none.mpr hlacks, rfl⟩
      · exact ⟨elseBranch, (Layout.read_nullable_eq_some Statement.decode_null).mpr hholds, rfl⟩
    have hparts : IfParts.fields l = .value ⟨condition, thenBranch, part, span⟩ :=
      IfParts.fields_eq_value.mpr ⟨(Layout.read_nullable_eq_some rfl).mpr hcondition,
        (Layout.read_nullable_eq_some Statement.decode_null).mpr hthen, hread,
        Layout.span_eq_value_iff.mpr hspan⟩
    rw [decode_eq_build hl hparts hfits]
    rfl

/-- What is decoded is described: each of the cases that are told apart has its answer. -/
theorem answers_decode (hl : j.layout? = some l) : Answers l (decode j) := by
  rcases RecordField.allRead_or_failsFirst partFields l with hread | ⟨f, v, e, hfirst⟩
  · obtain ⟨⟨condition, thenBranch, elseBranch, span⟩, hparts⟩ := exists_parts hread
    by_cases hfits : l.Fits 4
    · obtain ⟨hcondition, hthen, helse, hspan⟩ := IfParts.fields_eq_value.mp hparts
      rw [decode_eq_build hl hparts hfits]
      cases condition with
      | none =>
        have hlacks := Layout.read_nullable_eq_none.mp hcondition
        exact .incomplete ⟨hread, hfits, .inl ⟨hlacks, rfl⟩⟩
      | some condition =>
        have hholds := (Layout.read_nullable_eq_some rfl).mp hcondition
        cases thenBranch with
        | none =>
          have hlacks := Layout.read_nullable_eq_none.mp hthen
          exact .incomplete ⟨hread, hfits, .inr ⟨hholds.not_lacks rfl, hlacks, rfl⟩⟩
        | some thenBranch =>
          have hbranch := (Layout.read_nullable_eq_some Statement.decode_null).mp hthen
          refine .built hfits hholds hbranch ?_ (Layout.span_eq_value_iff.mp hspan)
          cases elseBranch with
          | none => exact .inl ⟨Layout.read_nullable_eq_none.mp helse, rfl⟩
          | some s => exact .inr ((Layout.read_nullable_eq_some Statement.decode_null).mp helse)
    · rw [decode_eq_conclude hl, conclude_eq_invalidLength hparts hfits]
      exact .tooLong hread hfits
  · have hanswers := Answers.unreadable hfirst
    rwa [hanswers.decode_eq hl]

/-- A conditional is decoded as it is described. -/
theorem decode_eq_iff_answers (hl : j.layout? = some l)
    (answer : Except DecodeError IfStatement) : decode j = answer ↔ Answers l answer := by
  constructor
  · rintro rfl
    exact answers_decode hl
  · exact Answers.decode_eq hl

end IfStatement

end StatementTree
