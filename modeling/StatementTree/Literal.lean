import StatementTree.Binary64.Text
import StatementTree.Literal.Quoted

/-!
# Literals

A literal is a string, a whole number of 64 bits, a floating-point number, a boolean or null.
Literals of different kinds never print alike: only strings start with a quote, and only a
floating-point number has a point, an exponent or a name of its own.
-/

namespace StatementTree

/-- A constant as it is spelled in a program. -/
inductive Literal where
  /-- A string, which is written in quotes. -/
  | string (value : String)
  /-- A whole number. -/
  | integer (value : Int64)
  /-- A floating-point number, which need not be finite. -/
  | float (value : Binary64)
  /-- A truth value. -/
  | boolean (value : Bool)
  /-- The null value. -/
  | null
  deriving DecidableEq

namespace Literal

/-- The word for a truth value. -/
def booleanText (value : Bool) : String := if value then "true" else "false"

/-- The canonical text of a literal. -/
def text : Literal → String
  | string value => Quoted.encode value
  | integer value => toString value.toInt
  | float value => value.text
  | boolean value => booleanText value
  | null => "null"

/-- Literals are equal when they are of one kind and hold equal values; floating-point numbers
are compared as numbers. -/
def beq : Literal → Literal → Bool
  | string a, string b => a = b
  | integer a, integer b => a = b
  | float a, float b => a == b
  | boolean a, boolean b => a = b
  | null, null => true
  | _, _ => false

/-- Literals are compared with their own `beq`. -/
instance : BEq Literal := ⟨beq⟩

example : text (string "say \"hi\"") = "\"say \\\"hi\\\"\"" := by decide
example : text (integer (-5)) = "-5" := by decide
example : text (float ⟨0x4004000000000000⟩) = "2.5" := by decide +kernel

end Literal

end StatementTree
