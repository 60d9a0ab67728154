import Mathlib.Data.List.Nodup
import StatementTree.Proofs.Wire.Reading

/-!
# Which flaw of a record is reported

A record may be flawed in several fields at once, and one error is answered. In an object the
fields that are written decide before the missing ones: of those that cannot be read the one whose
key comes first in the order of bytes, and only when all can be read the first missing one in the
order of declaration. In an array everything goes by the order of the elements, and its length is
looked at last. The two statements at the end say this of any record whose flaws are those of a
list of fields.
-/

namespace StatementTree

/-- A field of a record, as it is declared. -/
structure RecordField where
  /-- The values of the field. -/
  Value : Type
  /-- The key of the field. -/
  key : String
  /-- How what is written for the field is read. -/
  decode : Json → Except DecodeError Value
  /-- What becomes of the field when nothing is written for it. -/
  absence : Absence Value

namespace RecordField

/-- Whether a value can be read for the field. -/
def Reads (f : RecordField) (j : Json) : Prop := ∃ a, f.decode j = .ok a

/-- Whether the field can be read wherever an object has its key. -/
def ReadIn (f : RecordField) (members : List (String × Json)) : Prop :=
  ∀ j, members.lookup f.key = some j → f.Reads j

/-- Whether an object lacks the field, and the field has neither a default nor is it optional. -/
def MissingFrom (f : RecordField) (members : List (String × Json)) : Prop :=
  members.lookup f.key = none ∧ f.absence = .required

/-- Whether an array may end before the field. -/
def HasDefault (f : RecordField) : Prop := ∃ a, f.absence = .defaulted a

/-- Whether an object with the given members is refused for the error `e`, by a field that is
written or by a missing one. Keys are compared character by character, which is the order of their
bytes in UTF-8. -/
def ObjectRefused (fields : List RecordField) (members : List (String × Json))
    (e : DecodeError) : Prop :=
  (∃ f ∈ fields, ∃ j, members.lookup f.key = some j ∧ f.decode j = .error e ∧
    ∀ g ∈ fields, g.key < f.key → g.ReadIn members) ∨
  (∀ f ∈ fields, f.ReadIn members) ∧
    ∃ before f after, fields = before ++ f :: after ∧ f.MissingFrom members ∧
      (∀ g ∈ before, ¬ g.MissingFrom members) ∧ e = .missingField f.key

/-- Whether an array with the given elements is refused for the error `e`, by an element that
belongs to a field or by its length. -/
def ArrayRefused (fields : List RecordField) (items : List Json) (e : DecodeError) : Prop :=
  (∃ before f j after, fields.zip items = before ++ (f, j) :: after ∧ f.decode j = .error e ∧
    ∀ p ∈ before, p.1.Reads p.2) ∨
  (∀ p ∈ fields.zip items, p.1.Reads p.2) ∧
    ((∃ f ∈ fields.drop items.length, ¬ f.HasDefault) ∨ fields.length < items.length) ∧
    e = .invalidLength

/-- A field reads what it does not refuse. -/
theorem reads_iff {f : RecordField} {j : Json} : f.Reads j ↔ ∀ e, f.decode j ≠ .error e := by
  unfold Reads
  cases f.decode j <;> simp

/-- The flaws of the field under a layout, given what is written for it. -/
def flaws (f : RecordField) (l : Layout) (slot : Option Json) : List Flaw :=
  (l.field f.key f.absence (slot.map f.decode)).flaws

/-- The flaws of some fields, the first of which has the given number. -/
def flawsFrom (l : Layout) : Nat → List RecordField → List Flaw
  | _, [] => []
  | index, f :: rest => f.flaws l (l.slot? index f.key) ++ flawsFrom l (index + 1) rest

end RecordField

namespace Reading

variable {α β : Type}

/-- A change of the value keeps the flaws. -/
@[simp] theorem flaws_map (f : α → β) (r : Reading α) : (f <$> r).flaws = r.flaws := by
  change ((value f).seq r).flaws = r.flaws
  cases r <;> rfl

/-- Joined readings have the flaws of both, the first ones in front. -/
@[simp] theorem flaws_seq (f : Reading (α → β)) (x : Reading α) :
    (f <*> x).flaws = f.flaws ++ x.flaws := by
  change (f.seq x).flaws = f.flaws ++ x.flaws
  cases f <;> cases x <;> simp [seq, flaws]

end Reading

namespace Layout

variable {α : Type}

/-- Reading a field finds the flaws of that field. -/
theorem flaws_read (l : Layout) (index : Nat) (key : String) (absence : Absence α)
    (decode : Json → Except DecodeError α) :
    (l.read index key absence decode).flaws =
      RecordField.flaws ⟨α, key, decode, absence⟩ l (l.slot? index key) := rfl

/-- No unreadable field has a key before that of the first fault. -/
theorem least_of_firstFault? {flaws : List Flaw} {e : DecodeError}
    (h : firstFault? flaws = some e) :
    ∃ key, .unreadable key e ∈ flaws ∧ ∀ other e', .unreadable other e' ∈ flaws → key ≤ other := by
  obtain ⟨⟨key, error⟩, hfind, rfl⟩ := Option.map_eq_some_iff.mp h
  obtain ⟨flaw, hflaw, hfault⟩ := List.mem_filterMap.mp (List.mem_of_find?_eq_some hfind)
  have hleast := List.find?_some hfind
  cases flaw with
  | missing k => simp [Flaw.fault?] at hfault
  | unreadable k e =>
    obtain ⟨rfl, rfl⟩ : k = key ∧ e = error := by simpa [Flaw.fault?] using hfault
    refine ⟨k, hflaw, fun other e' hother => ?_⟩
    have hmem : (other, e') ∈ flaws.filterMap Flaw.fault? :=
      List.mem_filterMap.mpr ⟨_, hother, rfl⟩
    simpa using List.all_eq_true.mp hleast _ hmem

/-- The first fault is that of the unreadable field with the least key. -/
theorem firstFault?_eq_some_iff {flaws : List Flaw}
    (hunique : ∀ key e e', Flaw.unreadable key e ∈ flaws → .unreadable key e' ∈ flaws → e = e')
    {e : DecodeError} :
    firstFault? flaws = some e ↔
      ∃ key, .unreadable key e ∈ flaws ∧
        ∀ other e', .unreadable other e' ∈ flaws → key ≤ other := by
  constructor
  · exact least_of_firstFault?
  · rintro ⟨key, hkey, hleast⟩
    obtain ⟨e', he'⟩ := Option.ne_none_iff_exists'.mp (firstFault?_ne_none hkey)
    obtain ⟨key', hkey', hleast'⟩ := least_of_firstFault? he'
    -- Both keys are least, and of one key there is one error.
    obtain rfl : key = key' := le_antisymm (hleast key' e' hkey') (hleast' key e hkey)
    rw [he', hunique key e e' hkey hkey']

/-- There is a first fault unless every field that is written can be read. -/
theorem firstFault?_eq_none_iff {flaws : List Flaw} :
    firstFault? flaws = none ↔ ∀ key e, Flaw.unreadable key e ∉ flaws := by
  constructor
  · intro h key e hmem
    exact firstFault?_ne_none hmem h
  · intro h
    cases hfirst : firstFault? flaws with
    | none => rfl
    | some e =>
      obtain ⟨key, hmem⟩ := mem_of_firstFault? hfirst
      exact absurd hmem (h key e)

/-- An object is refused for its first fault, or else for the first field that it lacks. -/
theorem conclude_named_eq_error {members : List (String × Json)} {width : Nat} {r : Reading α}
    {e : DecodeError} :
    (named members).conclude width r = .error e ↔
      firstFault? r.flaws = some e ∨
        firstFault? r.flaws = none ∧ ∃ flaw ∈ r.flaws.head?, e = .missingField flaw.key := by
  cases r with
  | value a =>
    have hnone : firstFault? [] = none := rfl
    simp [conclude, Reading.flaws, hnone]
  | flawed first rest =>
    simp only [conclude, Reading.flaws]
    cases hfault : firstFault? (first :: rest) with
    | none => simp [eq_comm]
    | some error => simp [eq_comm]

/-- The error of an array whose first flaw this is. -/
def arrayError : Flaw → DecodeError
  | .unreadable _ e => e
  | .missing _ => .invalidLength

/-- An array is refused for its first flaw, or else because it is too long. -/
theorem conclude_positional_eq_error {items : List Json} {width : Nat} {r : Reading α}
    {e : DecodeError} :
    (positional items).conclude width r = .error e ↔
      (∃ flaw ∈ r.flaws.head?, e = arrayError flaw) ∨
        r.flaws = [] ∧ width < items.length ∧ e = .invalidLength := by
  cases r with
  | value a =>
    simp only [conclude, Reading.flaws]
    by_cases hfits : items.length ≤ width
    · simp [hfits]
    · simpa [hfits, Nat.lt_of_not_le hfits] using eq_comm
  | flawed first rest =>
    cases first with
    | unreadable key error => simpa [conclude, Reading.flaws, arrayError] using eq_comm
    | missing key => simpa [conclude, Reading.flaws, arrayError] using eq_comm

end Layout

namespace RecordField

variable {f : RecordField} {l : Layout} {members : List (String × Json)} {items : List Json}
  {fields : List RecordField}

/-- A field that can be read has no flaws. -/
theorem flaws_of_reads {j : Json} (h : f.Reads j) : f.flaws l (some j) = [] := by
  obtain ⟨a, ha⟩ := h
  simp [flaws, ha, Layout.field, Reading.flaws]

/-- A value that is refused is the one flaw of its field. -/
theorem flaws_of_error {j : Json} {e : DecodeError} (h : f.decode j = .error e) :
    f.flaws l (some j) = [.unreadable f.key e] := by
  simp [flaws, h, Layout.field, Reading.flaws]

/-- A field of an object that is not written is flawed when it is required. -/
theorem flaws_named_none : f.flaws (.named members) none =
    match f.absence with
    | .required => [.missing f.key]
    | _ => [] := by
  unfold flaws Layout.field
  cases f.absence <;> rfl

/-- A field behind the end of an array is flawed unless it has a default. -/
theorem flaws_positional_none : f.flaws (.positional items) none =
    match f.absence with
    | .defaulted _ => []
    | _ => [.missing f.key] := by
  unfold flaws Layout.field
  cases f.absence <;> rfl

/-- Only what is written for a field makes it unreadable. -/
theorem unreadable_mem_flaws {slot : Option Json} {key : String} {e : DecodeError} :
    .unreadable key e ∈ f.flaws l slot ↔
      key = f.key ∧ ∃ j, slot = some j ∧ f.decode j = .error e := by
  cases slot with
  | none =>
    cases l with
    | named members => rw [flaws_named_none]; cases f.absence <;> simp
    | positional items => rw [flaws_positional_none]; cases f.absence <;> simp
  | some j =>
    cases hj : f.decode j with
    | ok a => simp [flaws_of_reads ⟨a, hj⟩, hj]
    | error e' => simp [flaws_of_error hj, hj, eq_comm]

/-- In an object the flaws of every field are found under its key. -/
theorem flawsFrom_named (index : Nat) (fields : List RecordField) :
    flawsFrom (.named members) index fields =
      fields.flatMap fun f => f.flaws (.named members) (members.lookup f.key) := by
  induction fields generalizing index with
  | nil => rfl
  | cons f rest ih => rw [flawsFrom, ih, List.flatMap_cons]; rfl

/-- The unreadable fields of an object are those whose members are refused. -/
theorem unreadable_mem_flawsFrom {key : String} {e : DecodeError} :
    .unreadable key e ∈ flawsFrom (.named members) 0 fields ↔
      ∃ f ∈ fields, key = f.key ∧ ∃ j, members.lookup f.key = some j ∧ f.decode j = .error e := by
  rw [flawsFrom_named, List.mem_flatMap]
  exact exists_congr fun f => and_congr_right fun _ => unreadable_mem_flaws

/-- A field is read in an object exactly when it is not unreadable there. -/
theorem readIn_iff : f.ReadIn members ↔
    ¬ ∃ j, members.lookup f.key = some j ∧ ∃ e, f.decode j = .error e := by
  constructor
  · rintro h ⟨j, hj, e, he⟩
    exact reads_iff.mp (h j hj) e he
  · intro h j hj
    exact reads_iff.mpr fun e he => h ⟨j, hj, e, he⟩

/-- A field that can be read where it is written has no flaw, or it is missing. -/
theorem flaws_of_readIn (h : f.ReadIn members) :
    ¬ f.MissingFrom members ∧ f.flaws (.named members) (members.lookup f.key) = [] ∨
      f.MissingFrom members ∧
        f.flaws (.named members) (members.lookup f.key) = [.missing f.key] := by
  unfold MissingFrom
  cases hslot : members.lookup f.key with
  | some j => simp [flaws_of_reads (h j hslot)]
  | none =>
    rw [flaws_named_none]
    cases f.absence <;> simp

/-- Where all fields that are written can be read, the first flaw is the first missing field. -/
theorem head?_flawsFrom_named {flaw : Flaw} (h : ∀ f ∈ fields, f.ReadIn members) :
    flaw ∈ (flawsFrom (.named members) 0 fields).head? ↔
      ∃ before f after, fields = before ++ f :: after ∧ f.MissingFrom members ∧
        (∀ g ∈ before, ¬ g.MissingFrom members) ∧ flaw = .missing f.key := by
  have hsome (f : RecordField) (hf : f ∈ fields) :
      (f.flaws (.named members) (members.lookup f.key)).head? = some flaw ↔
        f.MissingFrom members ∧ flaw = .missing f.key := by
    rcases flaws_of_readIn (h f hf) with ⟨hmissing, hflaws⟩ | ⟨hmissing, hflaws⟩ <;>
      simp [hmissing, hflaws, eq_comm]
  have hnone (f : RecordField) (hf : f ∈ fields) :
      (f.flaws (.named members) (members.lookup f.key)).head? = none ↔
        ¬ f.MissingFrom members := by
    rcases flaws_of_readIn (h f hf) with ⟨hmissing, hflaws⟩ | ⟨hmissing, hflaws⟩ <;>
      simp [hmissing, hflaws]
  rw [flawsFrom_named, List.head?_flatMap, Option.mem_def, List.findSome?_eq_some_iff]
  constructor
  · rintro ⟨before, f, after, rfl, hfirst, hbefore⟩
    obtain ⟨hmissing, hflaw⟩ := (hsome f (by simp)).mp hfirst
    exact ⟨before, f, after, rfl, hmissing,
      fun g hg => (hnone g (by simp [hg])).mp (hbefore g hg), hflaw⟩
  · rintro ⟨before, f, after, rfl, hmissing, hbefore, hflaw⟩
    exact ⟨before, f, after, rfl, (hsome f (by simp)).mpr ⟨hmissing, hflaw⟩,
      fun g hg => (hnone g (by simp [hg])).mpr (hbefore g hg)⟩

/-- Two flaws of one key are of one field, which has one error. -/
theorem unreadable_unique (hkeys : (fields.map key).Nodup) {key : String} {e e' : DecodeError}
    (h : .unreadable key e ∈ flawsFrom (.named members) 0 fields)
    (h' : .unreadable key e' ∈ flawsFrom (.named members) 0 fields) : e = e' := by
  obtain ⟨f, hf, rfl, j, hj, he⟩ := unreadable_mem_flawsFrom.mp h
  obtain ⟨g, hg, hkey, j', hj', he'⟩ := unreadable_mem_flawsFrom.mp h'
  obtain rfl : f = g := List.inj_on_of_nodup_map hkeys hf hg hkey
  obtain rfl : j = j' := Option.some.inj (hj.symm.trans hj')
  exact Except.error.inj (he.symm.trans he')

/-- No field of an object is unreadable when each can be read where it is written. -/
theorem unreadable_notMem_flawsFrom :
    (∀ key e, Flaw.unreadable key e ∉ flawsFrom (.named members) 0 fields) ↔
      ∀ f ∈ fields, f.ReadIn members := by
  constructor
  · intro h f hf
    refine readIn_iff.mpr fun ⟨j, hj, e, he⟩ => h f.key e ?_
    exact unreadable_mem_flawsFrom.mpr ⟨f, hf, rfl, j, hj, he⟩
  · intro h key e hmem
    obtain ⟨f, hf, rfl, j, hj, he⟩ := unreadable_mem_flawsFrom.mp hmem
    exact readIn_iff.mp (h f hf) ⟨j, hj, e, he⟩

/-- An unreadable field has the least key of all unreadable fields when the fields with smaller
keys can be read where they are written. -/
theorem least_unreadable_iff {e : DecodeError} :
    (∃ key, .unreadable key e ∈ flawsFrom (.named members) 0 fields ∧
      ∀ other e', .unreadable other e' ∈ flawsFrom (.named members) 0 fields → key ≤ other) ↔
      ∃ f ∈ fields, ∃ j, members.lookup f.key = some j ∧ f.decode j = .error e ∧
        ∀ g ∈ fields, g.key < f.key → g.ReadIn members := by
  constructor
  · rintro ⟨key, hmem, hleast⟩
    obtain ⟨f, hf, rfl, j, hj, he⟩ := unreadable_mem_flawsFrom.mp hmem
    refine ⟨f, hf, j, hj, he, fun g hg hlt => readIn_iff.mpr fun ⟨j', hj', e', he'⟩ => ?_⟩
    have hle := hleast g.key e' (unreadable_mem_flawsFrom.mpr ⟨g, hg, rfl, j', hj', he'⟩)
    exact absurd hlt (not_lt.mpr hle)
  · rintro ⟨f, hf, j, hj, he, hleast⟩
    refine ⟨f.key, unreadable_mem_flawsFrom.mpr ⟨f, hf, rfl, j, hj, he⟩, ?_⟩
    intro other e' hmem
    obtain ⟨g, hg, rfl, j', hj', he'⟩ := unreadable_mem_flawsFrom.mp hmem
    exact not_lt.mp fun hlt => readIn_iff.mp (hleast g hg hlt) ⟨j', hj', e', he'⟩

/-- An object is refused for the flaws of its fields. -/
theorem conclude_named_iff {α : Type} {width : Nat} {r : Reading α} {e : DecodeError}
    (hkeys : (fields.map key).Nodup) (hr : r.flaws = flawsFrom (.named members) 0 fields) :
    (Layout.named members).conclude width r = .error e ↔ ObjectRefused fields members e := by
  rw [Layout.conclude_named_eq_error, hr,
    Layout.firstFault?_eq_some_iff fun _ _ _ => unreadable_unique hkeys,
    Layout.firstFault?_eq_none_iff, least_unreadable_iff, unreadable_notMem_flawsFrom]
  refine or_congr_right (and_congr_right fun h => ?_)
  constructor
  · rintro ⟨flaw, hflaw, rfl⟩
    obtain ⟨before, f, after, hfields, hmissing, hbefore, rfl⟩ := (head?_flawsFrom_named h).mp hflaw
    exact ⟨before, f, after, hfields, hmissing, hbefore, rfl⟩
  · rintro ⟨before, f, after, hfields, hmissing, hbefore, rfl⟩
    refine ⟨.missing f.key, (head?_flawsFrom_named h).mpr ?_, rfl⟩
    exact ⟨before, f, after, hfields, hmissing, hbefore, rfl⟩

/-- The flaws of an array are those of its elements and then those of the fields it ends before. -/
theorem flawsFrom_positional (index : Nat) (fields : List RecordField) :
    flawsFrom (.positional items) index fields =
      (fields.zip (items.drop index)).flatMap (fun p => p.1.flaws (.positional items) (some p.2)) ++
        (fields.drop (items.drop index).length).flatMap
          (fun f => f.flaws (.positional items) none) := by
  induction fields generalizing index with
  | nil => simp [flawsFrom]
  | cons f rest ih =>
    have hslot : (Layout.positional items).slot? index f.key = (items.drop index).head? :=
      List.head?_drop.symm
    have htail : items.drop (index + 1) = (items.drop index).tail := List.tail_drop.symm
    rw [flawsFrom, ih, hslot, htail]
    cases items.drop index with
    | nil => simp
    | cons j others => simp

/-- What is written for a field has no flaw when it can be read, and otherwise one. -/
theorem flaws_some (l : Layout) (f : RecordField) (j : Json) :
    f.Reads j ∧ f.flaws l (some j) = [] ∨
      ∃ e, f.decode j = .error e ∧ f.flaws l (some j) = [.unreadable f.key e] := by
  cases hj : f.decode j with
  | ok a => exact .inl ⟨⟨a, hj⟩, flaws_of_reads ⟨a, hj⟩⟩
  | error e => exact .inr ⟨e, rfl, flaws_of_error hj⟩

/-- The elements that belong to fields have no flaws exactly when all of them can be read. -/
theorem flatMap_flaws_eq_nil_iff (l : Layout) (pairs : List (RecordField × Json)) :
    (pairs.flatMap fun p => p.1.flaws l (some p.2)) = [] ↔ ∀ p ∈ pairs, p.1.Reads p.2 := by
  rw [List.flatMap_eq_nil_iff]
  refine forall₂_congr fun p _ => ?_
  rcases flaws_some l p.1 p.2 with ⟨hreads, hflaws⟩ | ⟨e, he, hflaws⟩
  · simp [hreads, hflaws]
  · have hnot : ¬ p.1.Reads p.2 := fun h => reads_iff.mp h e he
    simp [hnot, hflaws]

/-- The first flaw of the elements that belong to fields is that of the first which cannot be
read. -/
theorem head?_flatMap_flaws {pairs : List (RecordField × Json)} {e : DecodeError} :
    (∃ flaw ∈ (pairs.flatMap fun p => p.1.flaws l (some p.2)).head?,
        e = Layout.arrayError flaw) ↔
      ∃ before f j after, pairs = before ++ (f, j) :: after ∧ f.decode j = .error e ∧
        ∀ p ∈ before, p.1.Reads p.2 := by
  have hnone (p : RecordField × Json) :
      (p.1.flaws l (some p.2)).head? = none ↔ p.1.Reads p.2 := by
    simpa using flatMap_flaws_eq_nil_iff l [p]
  have hsome (p : RecordField × Json) (flaw : Flaw) :
      (p.1.flaws l (some p.2)).head? = some flaw ↔
        ∃ e, p.1.decode p.2 = .error e ∧ flaw = .unreadable p.1.key e := by
    rcases flaws_some l p.1 p.2 with ⟨⟨a, ha⟩, hflaws⟩ | ⟨e, he, hflaws⟩
    · simp [ha, hflaws]
    · simp [he, hflaws, eq_comm]
  simp only [List.head?_flatMap, Option.mem_def, List.findSome?_eq_some_iff, hsome, hnone]
  constructor
  · rintro ⟨flaw, ⟨before, ⟨f, j⟩, after, hpairs, ⟨e', he', rfl⟩, hbefore⟩, rfl⟩
    exact ⟨before, f, j, after, hpairs, he', hbefore⟩
  · rintro ⟨before, f, j, after, hpairs, he, hbefore⟩
    exact ⟨_, ⟨before, (f, j), after, hpairs, ⟨e, he, rfl⟩, hbefore⟩, rfl⟩

/-- A field behind the end of an array has no flaw when it has a default, and otherwise one. -/
theorem flaws_none (items : List Json) (f : RecordField) :
    f.HasDefault ∧ f.flaws (.positional items) none = [] ∨
      ¬ f.HasDefault ∧ f.flaws (.positional items) none = [.missing f.key] := by
  rw [flaws_positional_none]
  unfold HasDefault
  cases f.absence <;> simp

/-- The fields that an array ends before have no flaws exactly when all of them have defaults. -/
theorem flatMap_flaws_none_eq_nil_iff :
    (fields.flatMap fun f => f.flaws (.positional items) none) = [] ↔
      ¬ ∃ f ∈ fields, ¬ f.HasDefault := by
  rw [List.flatMap_eq_nil_iff]
  push Not
  refine forall₂_congr fun f _ => ?_
  rcases flaws_none items f with ⟨hdefault, hflaws⟩ | ⟨hdefault, hflaws⟩ <;>
    simp [hdefault, hflaws]

/-- An array that ends too early is refused for its length, whichever field is concerned. -/
theorem head?_flatMap_flaws_none {e : DecodeError} :
    (∃ flaw ∈ (fields.flatMap fun f => f.flaws (.positional items) none).head?,
        e = Layout.arrayError flaw) ↔
      (∃ f ∈ fields, ¬ f.HasDefault) ∧ e = .invalidLength := by
  induction fields with
  | nil => simp
  | cons f rest ih =>
    rw [List.flatMap_cons]
    rcases flaws_none items f with ⟨hdefault, hflaws⟩ | ⟨hdefault, hflaws⟩
    · simpa [hdefault, hflaws] using ih
    · simp [hdefault, hflaws, Layout.arrayError]

/-- An array is refused for the flaws of its fields, or because it is too long. -/
theorem conclude_positional_iff {α : Type} {r : Reading α} {e : DecodeError}
    (hr : r.flaws = flawsFrom (.positional items) 0 fields) :
    (Layout.positional items).conclude fields.length r = .error e ↔
      ArrayRefused fields items e := by
  rw [Layout.conclude_positional_eq_error, hr, flawsFrom_positional, List.drop_zero]
  unfold ArrayRefused
  by_cases hall : ∀ p ∈ fields.zip items, p.1.Reads p.2
  · have hread : ¬ ∃ before f j after, fields.zip items = before ++ (f, j) :: after ∧
        f.decode j = .error e ∧ ∀ p ∈ before, p.1.Reads p.2 := by
      rintro ⟨before, f, j, after, hzip, he, -⟩
      exact reads_iff.mp (hall (f, j) (by simp [hzip])) e he
    rw [(flatMap_flaws_eq_nil_iff _ _).mpr hall, List.nil_append, head?_flatMap_flaws_none,
      flatMap_flaws_none_eq_nil_iff, or_iff_right hread, and_iff_right hall]
    by_cases hends : ∃ f ∈ fields.drop items.length, ¬ f.HasDefault
    · simp only [hends, true_and, true_or, not_true_eq_false, false_and, or_false]
    · simp only [hends, false_and, false_or, not_false_eq_true, true_and]
  · have hflawed := mt (flatMap_flaws_eq_nil_iff (.positional items) _).mp hall
    rw [List.head?_append_of_ne_nil _ hflawed, head?_flatMap_flaws,
      or_iff_left fun h => hflawed (List.append_eq_nil_iff.mp h.1).1, or_iff_left fun h => hall h.1]

end RecordField

end StatementTree
