import StatementTree.Proofs.Wire.Choice
import StatementTree.Proofs.Wire.Spelling
import StatementTree.Proofs.Wire.Unfolding

/-!
# Fields that are read and fields that are spelled

The decoders look for a field by its place or its key; a spelling goes through the elements of
an array or the members of an object. A record spells its fields when every field is spelled
where a decoder looks for it and nothing lies behind the last place, so one field can be
compared at a time.
-/

namespace StatementTree

namespace FieldSpelling

/-- Whether a record spells the field at the given place. -/
def At (f : FieldSpelling) (l : Layout) (index : Nat) : Prop :=
  match l.slot? index f.key, l with
  | some j, _ => f.Spells j
  | none, .named _ => f.Omissible
  | none, .positional _ => f.Truncatable

/-- Whether a record spells some fields, the first of them at the given place. -/
def AllAt (l : Layout) : Nat → List FieldSpelling → Prop
  | _, [] => True
  | index, f :: fields => f.At l index ∧ AllAt l (index + 1) fields

/-- In an object every field is looked up by its key, wherever it stands. -/
theorem allAt_named {members : List (String × Json)} {index : Nat} {fields : List FieldSpelling} :
    AllAt (.named members) index fields ↔ ∀ f ∈ fields, f.SpelledBy members := by
  have hat (f : FieldSpelling) (index : Nat) :
      f.At (.named members) index ↔ f.SpelledBy members := by
    cases h : members.lookup f.key <;> simp [At, SpelledBy, Layout.slot?, h]
  induction fields generalizing index with
  | nil => simp [AllAt]
  | cons f fields ih => simp [AllAt, hat, ih]

/-- The elements from a place on spell the fields from there on, and nothing else is there. -/
theorem allAt_positional {items : List Json} {index : Nat} {fields : List FieldSpelling} :
    AllAt (.positional items) index fields ∧ items.length ≤ index + fields.length ↔
      Json.SpellsElements fields (items.drop index) := by
  induction fields generalizing index with
  | nil => simp [AllAt, Json.SpellsElements]
  | cons f fields ih =>
    rw [AllAt, and_assoc, List.length_cons, ← Nat.add_assoc, Nat.add_right_comm, ih]
    rcases Nat.lt_or_ge index items.length with hlt | hge
    · rw [List.drop_eq_getElem_cons hlt, Json.SpellsElements]
      simp [At, Layout.slot?, hlt]
    · rw [List.drop_eq_nil_of_le hge, List.drop_eq_nil_of_le (by omega), Json.SpellsElements]
      simp [At, Layout.slot?, hge]

end FieldSpelling

/-- A record spells its fields when each is spelled at its place and it is not too long. -/
theorem Json.spellsRecord_iff {fields : List FieldSpelling} {j : Json} :
    SpellsRecord fields j ↔
      ∃ l, j.layout? = some l ∧ FieldSpelling.AllAt l 0 fields ∧ l.Fits fields.length := by
  cases j with
  | object members =>
    simp [SpellsRecord, SpellsObject, layout?, FieldSpelling.allAt_named, Layout.Fits]
  | array items =>
    have h : FieldSpelling.AllAt (.positional items) 0 fields ∧ items.length ≤ 0 + fields.length ↔
        SpellsElements fields (items.drop 0) := FieldSpelling.allAt_positional
    simpa [SpellsRecord, layout?, Layout.Fits] using h.symm
  | _ => simp [SpellsRecord, SpellsObject, layout?]

namespace Layout

variable {α : Type} {l : Layout} {index : Nat} {key : String} {a : α}
  {decode : Json → Except DecodeError α} {spells : Json → Prop}

/-- Reading a field that must be written. -/
theorem read_required (h : ∀ j, decode j = .ok a ↔ spells j) :
    l.read index key .required decode = .value a ↔
      (FieldSpelling.required key spells).At l index := by
  rw [read_eq_value]
  unfold FieldSpelling.At FieldSpelling.required
  cases l.slot? index key with
  | some j => exact h j
  | none => cases l <;> exact Iff.rfl

/-- Reading a field that only an object may leave out. -/
theorem read_omissible {b : α} {isAbsent : Prop} (h : ∀ j, decode j = .ok a ↔ spells j)
    (hb : b = a ↔ isAbsent) :
    l.read index key (.omissible b) decode = .value a ↔
      (FieldSpelling.nullable key spells isAbsent).At l index := by
  rw [read_eq_value]
  unfold FieldSpelling.At FieldSpelling.nullable
  cases l.slot? index key with
  | some j => exact h j
  | none =>
    cases l with
    | named members => exact hb
    | positional items => exact Iff.rfl

/-- Reading a field that has a default. -/
theorem read_defaulted {b : α} {isDefault : Prop} (h : ∀ j, decode j = .ok a ↔ spells j)
    (hb : b = a ↔ isDefault) :
    l.read index key (.defaulted b) decode = .value a ↔
      (FieldSpelling.defaulted key spells isDefault).At l index := by
  rw [read_eq_value]
  unfold FieldSpelling.At FieldSpelling.defaulted
  cases l.slot? index key with
  | some j => exact h j
  | none => cases l <;> exact hb

/-- A field that may be left out is as good as required when its value is not the default. -/
theorem read_present {absence : Absence α} (h : ∀ j, decode j = .ok a ↔ spells j)
    (habsent : ¬ l.Leaves absence a) :
    l.read index key absence decode = .value a ↔
      (FieldSpelling.required key spells).At l index := by
  rw [read_eq_value]
  unfold FieldSpelling.At FieldSpelling.required
  cases l.slot? index key with
  | some j => exact h j
  | none => cases l <;> simp [habsent]

end Layout

end StatementTree
