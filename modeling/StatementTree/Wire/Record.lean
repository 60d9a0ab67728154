import StatementTree.Wire.Error

/-!
# Records

A record is written as an object with a member for each field, or as an array of its fields in
the order in which they are declared. All fields are read before the outcome is settled, and
what is wrong with each is kept. In an object the unreadable field whose key comes first in the
order of bytes decides, and only when every field that is there can be read, the first missing
one in the order of declaration. In an array the first flaw decides, and elements behind the
last field are noticed last.
-/

namespace StatementTree

/-- The two ways to write a record. -/
inductive Layout where
  /-- An object: fields are found by their keys. -/
  | named (members : List (String × Json))
  /-- An array: fields are found by their places. -/
  | positional (items : List Json)

/-- How a JSON value writes a record, if it can be one. -/
def Json.layout? : Json → Option Layout
  | object members => some (.named members)
  | array items => some (.positional items)
  | _ => none

/-- What becomes of a field that is not written. -/
inductive Absence (α : Type) where
  /-- The field must be written. -/
  | required
  /-- An object may leave the field out, which then has this value. -/
  | omissible (value : α)
  /-- An object may leave the field out and an array may end before it. -/
  | defaulted (value : α)

/-- What is wrong with one field of a record. -/
inductive Flaw where
  /-- The field is written and cannot be read. -/
  | unreadable (key : String) (error : DecodeError)
  /-- The field must be written and is not. -/
  | missing (key : String)

/-- The key of the field that is flawed. -/
def Flaw.key : Flaw → String
  | unreadable key _ => key
  | missing key => key

/-- The error of a field that is written and cannot be read, with its key. -/
def Flaw.fault? : Flaw → Option (String × DecodeError)
  | unreadable key error => some (key, error)
  | missing _ => none

/-- What reading some fields of a record answers: the values, or all flaws in the order in which
the fields are declared. -/
inductive Reading (α : Type) where
  /-- Every field could be read or left out. -/
  | value (a : α)
  /-- There is a first flaw, and there may be others. -/
  | flawed (first : Flaw) (rest : List Flaw)

namespace Reading

/-- All flaws of a reading. -/
def flaws {α : Type} : Reading α → List Flaw
  | value _ => []
  | flawed first rest => first :: rest

/-- Joins two readings; the flaws of both are kept. -/
def seq {α β : Type} : Reading (α → β) → Reading α → Reading β
  | value f, value a => value (f a)
  | value _, flawed first rest => flawed first rest
  | flawed first rest, x => flawed first (rest ++ x.flaws)

/-- Readings are joined in the order of the fields. -/
instance : Applicative Reading where
  pure := value
  seq f x := f.seq (x ())

end Reading

namespace Layout

/-- What is written for the field with the given place and key. -/
def slot? (l : Layout) (index : Nat) (key : String) : Option Json :=
  match l with
  | named members => members.lookup key
  | positional items => items[index]?

/-- A field, given what is read where it is written. -/
def field {α : Type} (l : Layout) (key : String) (absence : Absence α) :
    Option (Except DecodeError α) → Reading α
  | some (.ok a) => .value a
  | some (.error e) => .flawed (.unreadable key e) []
  | none =>
    match absence, l with
    | .defaulted a, _ => .value a
    | .omissible a, named _ => .value a
    | _, _ => .flawed (.missing key) []

/-- A field that is read wherever it is written. -/
def read {α : Type} (l : Layout) (index : Nat) (key : String) (absence : Absence α)
    (decode : Json → Except DecodeError α) : Reading α :=
  l.field key absence ((l.slot? index key).map decode)

/-- The error of the unreadable field whose key comes first. -/
def firstFault? (flaws : List Flaw) : Option DecodeError :=
  let faults := flaws.filterMap Flaw.fault?
  (faults.find? fun f => faults.all fun g => f.1 ≤ g.1).map (·.2)

/-- Settles the outcome for a record with the given number of fields. -/
def conclude {α : Type} (l : Layout) (width : Nat) (reading : Reading α) :
    Except DecodeError α :=
  match l, reading with
  | named _, .value a => .ok a
  | named _, .flawed first rest =>
    match firstFault? (first :: rest) with
    | some error => .error error
    | none => .error (.missingField first.key)
  | positional items, .value a =>
    if items.length ≤ width then .ok a else .error .invalidLength
  | positional _, .flawed (.unreadable _ error) _ => .error error
  | positional _, .flawed (.missing _) _ => .error .invalidLength

/-- What is written for a field of an object is smaller than the object. -/
theorem sizeOf_member_lt {members : List (String × Json)} {index : Nat} {key : String}
    {value : Json} (h : (named members).slot? index key = some value) :
    sizeOf value < sizeOf (Json.object members) :=
  Json.sizeOf_lt_object h

/-- What is written for a field is smaller than the record. -/
theorem sizeOf_slot_lt {j value : Json} {l : Layout} {index : Nat} {key : String}
    (hl : j.layout? = some l) (h : l.slot? index key = some value) :
    sizeOf value < sizeOf j := by
  cases j with
  | object members =>
    obtain rfl := Option.some.inj hl
    exact sizeOf_member_lt h
  | array items =>
    obtain rfl := Option.some.inj hl
    exact Json.sizeOf_lt_array (List.mem_of_getElem? h)
  | null => simp [Json.layout?] at hl
  | bool _ => simp [Json.layout?] at hl
  | integer _ => simp [Json.layout?] at hl
  | float _ => simp [Json.layout?] at hl
  | string _ => simp [Json.layout?] at hl

end Layout

end StatementTree
