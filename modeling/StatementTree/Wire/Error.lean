import StatementTree.Json
import StatementTree.Statement.Node

/-!
# Why a value cannot be decoded, and the simple readers

A JSON value can be of the wrong kind, out of range, or too long or too short; a record can
lack a field, a choice can have an unknown name, and a conditional can lack a part that it
cannot be built without. The readers for simple values tell the first three apart.
-/

namespace StatementTree

/-- Why a JSON value is not the encoding of anything of the wanted type. -/
inductive DecodeError where
  /-- A record lacks a field that it must have. -/
  | missingField (key : String)
  /-- A choice has a name that no alternative has. -/
  | unknownVariant (name : String)
  /-- The value is of the wrong kind. -/
  | invalidType
  /-- The value is of the right kind but out of range. -/
  | invalidValue
  /-- An array has too few or too many elements. -/
  | invalidLength
  /-- A conditional was decoded but could not be built. -/
  | invalidArgument (error : BuildError)
  deriving DecidableEq

/-- What is reported to the caller, for the errors that have a text. -/
def DecodeError.message? : DecodeError → Option String
  | missingField key => some ("missing field `" ++ key ++ "`")
  | unknownVariant name => some ("unknown variant `" ++ name ++ "`")
  | invalidArgument error => some error.message
  | invalidType | invalidValue | invalidLength => none

namespace Json

/-- Reads a string. -/
def asString : Json → Except DecodeError String
  | string value => .ok value
  | _ => .error .invalidType

/-- Reads a boolean. -/
def asBool : Json → Except DecodeError Bool
  | bool value => .ok value
  | _ => .error .invalidType

/-- Reads an unsigned number of 64 bits. -/
def asUInt64 : Json → Except DecodeError UInt64
  | integer n => if 0 ≤ n.value then .ok (UInt64.ofNat n.value.toNat) else .error .invalidValue
  | _ => .error .invalidType

/-- Reads a signed number of 64 bits. -/
def asInt64 : Json → Except DecodeError Int64
  | integer n =>
    if n.value < 2 ^ (63 : Nat) then .ok (Int64.ofInt n.value) else .error .invalidValue
  | _ => .error .invalidType

/-- Reads a floating-point number; a whole number stands for the nearest one. -/
def asBinary64 : Json → Except DecodeError Binary64
  | integer n => .ok (Binary64.ofInt n.value)
  | float x => .ok x.val
  | _ => .error .invalidType

/-- Reads a value that may be null, given what reading it otherwise answers. -/
def orNull {α : Type} (j : Json) (otherwise : Except DecodeError α) :
    Except DecodeError (Option α) :=
  match j with
  | null => .ok none
  | _ => otherwise.map some

/-- Reads the elements of a list in order; the first that cannot be read is the answer. -/
def readAll {α : Type} (items : List Json)
    (read : (item : Json) → item ∈ items → Except DecodeError α) :
    Except DecodeError (List α) :=
  match items with
  | [] => .ok []
  | item :: rest =>
    match read item (List.mem_cons_self ..) with
    | .error e => .error e
    | .ok first =>
      (readAll rest fun next h => read next (List.mem_cons_of_mem _ h)).map (first :: ·)

/-- Reads an array, each element in order. -/
def asArray {α : Type} (j : Json)
    (read : (item : Json) → sizeOf item < sizeOf j → Except DecodeError α) :
    Except DecodeError (List α) :=
  match j with
  | array items => readAll items fun item h => read item (sizeOf_lt_array h)
  | _ => .error .invalidType

end Json

end StatementTree
