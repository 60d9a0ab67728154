import Mathlib.Data.List.MinMax
import Mathlib.Data.String.Basic
import StatementTree.Wire.Decode

/-!
# What a record answers

A record is read field by field and then settled. These lemmas say when a reading has a value,
when a settled record does, and that an object with an unreadable field always has a first one,
so that no error is lost on the way.
-/

namespace StatementTree

namespace Reading

variable {α β : Type}

/-- A mapped reading has a value when the reading has one. -/
theorem map_eq_value {f : α → β} {r : Reading α} {b : β} :
    f <$> r = value b ↔ ∃ a, r = value a ∧ f a = b := by
  change (value f).seq r = value b ↔ _
  cases r with
  | value a => simp [seq]
  | flawed first rest => simp [seq]

/-- Joined readings have a value when both have one. -/
theorem seq_eq_value {f : Reading (α → β)} {x : Reading α} {b : β} :
    f <*> x = value b ↔ ∃ g a, f = value g ∧ x = value a ∧ g a = b := by
  change f.seq x = value b ↔ _
  cases f with
  | value g => cases x <;> simp [seq]
  | flawed first rest => simp [seq]

end Reading

namespace Layout

variable {α : Type}

/-- What a record that does not write a field says about it: under which layouts the field may
be left out, and which value it then has. -/
def Leaves (l : Layout) (absence : Absence α) (a : α) : Prop :=
  match absence, l with
  | .defaulted b, _ => b = a
  | .omissible b, named _ => b = a
  | _, _ => False

/-- Whether a record is no longer than its number of fields. -/
def Fits (l : Layout) (width : Nat) : Prop :=
  match l with
  | named _ => True
  | positional items => items.length ≤ width

/-- A field that is not written has the value that the record may leave out. -/
theorem field_none_eq_value {l : Layout} {key : String} {absence : Absence α} {a : α} :
    l.field key absence none = .value a ↔ l.Leaves absence a := by
  cases absence <;> cases l <;> simp [field, Leaves]

/-- A field has a value when what is written for it can be read, or when nothing is written and
the field may be left out. -/
theorem read_eq_value {l : Layout} {index : Nat} {key : String} {absence : Absence α}
    {decode : Json → Except DecodeError α} {a : α} :
    l.read index key absence decode = .value a ↔
      match l.slot? index key with
      | some j => decode j = .ok a
      | none => l.Leaves absence a := by
  unfold read
  cases l.slot? index key with
  | none => exact field_none_eq_value
  | some j =>
    simp only [Option.map_some]
    cases decode j <;> simp [field]

/-- A record is settled with a value when all its fields have one and it is not too long. -/
theorem conclude_eq_ok {l : Layout} {width : Nat} {r : Reading α} {a : α} :
    l.conclude width r = .ok a ↔ r = .value a ∧ l.Fits width := by
  cases l with
  | named members =>
    cases r with
    | value b => simp [conclude, Fits]
    | flawed first rest =>
      cases h : firstFault? (first :: rest) <;> simp [conclude, h]
  | positional items =>
    cases r with
    | value b =>
      simp only [conclude, Fits, Reading.value.injEq]
      split <;> simp_all
    | flawed first rest => cases first <;> simp [conclude]

/-- The first fault is the error of one of the unreadable fields. -/
theorem mem_of_firstFault? {flaws : List Flaw} {e : DecodeError}
    (h : firstFault? flaws = some e) : ∃ key, .unreadable key e ∈ flaws := by
  obtain ⟨⟨key, error⟩, hfind, rfl⟩ := Option.map_eq_some_iff.mp h
  obtain ⟨flaw, hflaw, hfault⟩ := List.mem_filterMap.mp (List.mem_of_find?_eq_some hfind)
  cases flaw with
  | unreadable k e =>
    obtain ⟨rfl, rfl⟩ : k = key ∧ e = error := by simpa [Flaw.fault?] using hfault
    exact ⟨k, hflaw⟩
  | missing k => simp [Flaw.fault?] at hfault

/-- Where a field is unreadable there is a first fault. -/
theorem firstFault?_ne_none {flaws : List Flaw} {key : String} {e : DecodeError}
    (h : .unreadable key e ∈ flaws) : firstFault? flaws ≠ none := by
  set faults := flaws.filterMap Flaw.fault? with hfaults
  have hmem : (key, e) ∈ faults := List.mem_filterMap.mpr ⟨_, h, rfl⟩
  obtain ⟨least, hleast⟩ := Option.ne_none_iff_exists'.mp
    (mt List.argmin_eq_none.mp (List.ne_nil_of_mem hmem) :
      faults.argmin Prod.fst ≠ none)
  have hle : ∀ fault ∈ faults, least.1 ≤ fault.1 := fun fault hfault =>
    List.le_of_mem_argmin hfault hleast
  have hfound : (faults.find? fun f => faults.all fun g => f.1 ≤ g.1).isSome = true := by
    rw [List.find?_isSome]
    exact ⟨least, List.argmin_mem hleast, by simpa using hle⟩
  obtain ⟨fault, hfault⟩ := Option.isSome_iff_exists.mp hfound
  have hfirst : firstFault? flaws = some fault.2 := congrArg (Option.map Prod.snd) hfault
  rw [hfirst]
  exact Option.some_ne_none _

end Layout

/-- A record is decoded when it is laid out as one, all fields have values and it is not too
long. -/
theorem Json.record_eq_ok {α : Type} {j : Json} {width : Nat} {fields : Layout → Reading α}
    {a : α} :
    j.record width fields = .ok a ↔
      ∃ l, j.layout? = some l ∧ fields l = .value a ∧ l.Fits width := by
  unfold record
  cases j.layout? with
  | none => simp
  | some l => simp [Layout.conclude_eq_ok]

end StatementTree
