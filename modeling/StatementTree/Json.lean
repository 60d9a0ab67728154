import StatementTree.Binary64.Rounding

/-!
# JSON values

A JSON value as a reader hands it over. Numbers come in two kinds that are never mixed: whole
numbers that fit into 64 bits, signed or unsigned, and finite floating-point numbers. The members
of an object keep their order, and asking for a key finds the first member under it.
-/

namespace StatementTree

/-- A whole number that fits into 64 bits, as a signed or as an unsigned number. -/
structure WholeNumber where
  /-- The number. -/
  value : Int
  /-- It is no less than the least signed number of 64 bits. -/
  lower : -2 ^ (63 : Nat) ≤ value
  /-- It is no more than the largest unsigned number of 64 bits. -/
  upper : value < 2 ^ (64 : Nat)
  deriving DecidableEq

/-- A floating-point number that is neither infinite nor NaN. -/
abbrev FiniteBinary64 := { x : Binary64 // x.isFinite = true }

/-- A JSON value. -/
inductive Json where
  /-- The value `null`. -/
  | null
  /-- A truth value. -/
  | bool (value : Bool)
  /-- A number without fraction and exponent. -/
  | integer (value : WholeNumber)
  /-- Any other number. -/
  | float (value : FiniteBinary64)
  /-- A string. -/
  | string (value : String)
  /-- Values in order. -/
  | array (items : List Json)
  /-- Values under keys, in order. -/
  | object (members : List (String × Json))

namespace Json

/-- The default value is null. -/
instance : Inhabited Json := ⟨null⟩

/-- An unsigned number of 64 bits as a whole number. -/
def ofUInt64 (n : UInt64) : Json :=
  integer ⟨n.toNat, by omega, by have := n.toNat_lt; omega⟩

/-- A signed number of 64 bits as a whole number. -/
def ofInt64 (n : Int64) : Json :=
  integer ⟨n.toInt, by have := n.le_toInt; omega, by have := n.toInt_lt; omega⟩

/-- A floating-point number; there is no spelling of infinity or NaN, which become null. -/
def ofBinary64 (x : Binary64) : Json :=
  if finite : x.isFinite = true then float ⟨x, finite⟩ else null

/-- What is there, or null. -/
def ofOption (value : Option Json) : Json := value.getD null

/-- An element of an array is smaller than the array. -/
theorem sizeOf_lt_array {items : List Json} {item : Json} (h : item ∈ items) :
    sizeOf item < sizeOf (array items) := by
  have := List.sizeOf_lt_of_mem h
  simp only [array.sizeOf_spec]
  omega

/-- The value under a key of an object is smaller than the object. -/
theorem sizeOf_lt_object {members : List (String × Json)} {key : String} {value : Json}
    (h : members.lookup key = some value) : sizeOf value < sizeOf (object members) := by
  suffices hlt : sizeOf value < sizeOf members by
    simp only [object.sizeOf_spec]
    omega
  induction members with
  | nil => simp at h
  | cons member rest ih =>
    obtain ⟨name, first⟩ := member
    rw [List.lookup_cons] at h
    simp only [List.cons.sizeOf_spec, Prod.mk.sizeOf_spec]
    split at h
    case h_1 =>
      obtain rfl := Option.some.inj h
      omega
    case h_2 => have := ih h; omega

end Json

end StatementTree
