/-!
# Decimal numbers and their two notations

A nonnegative decimal number is a whole number of digits at a power of ten. It is written
positionally, always with a digit on both sides of the point, or scientifically, with one
digit before the point and no point when no digit follows.
-/

namespace StatementTree

-- Everywhere in this library powers are those of the core library, whichever others are in scope.
attribute [scoped instance (2000)] instPowNat

/-- The number `digits * 10 ^ exponent`. -/
structure Decimal where
  /-- The digits, read as a whole number. -/
  digits : Nat
  /-- The power of ten that the last digit counts. -/
  exponent : Int
  deriving DecidableEq

namespace Decimal

/-- The value as a fraction: what stands above the line. -/
def numerator (d : Decimal) : Nat := d.digits * 10 ^ d.exponent.toNat

/-- The value as a fraction: what stands below the line. -/
def denominator (d : Decimal) : Nat := 10 ^ (-d.exponent).toNat

/-- Nothing stands below the line but a positive number. -/
theorem denominator_pos (d : Decimal) : 0 < d.denominator := Nat.pow_pos (by decide)

/-- The digits as characters, the highest first. -/
def digitChars (d : Decimal) : List Char := Nat.toDigits 10 d.digits

/-- A decimal has at least one digit to write. -/
theorem digitChars_ne_nil (d : Decimal) : d.digitChars ≠ [] := Nat.toDigits_ne_nil

/-- The power of ten that the first digit counts. -/
def leadingExponent (d : Decimal) : Int := d.digitChars.length - 1 + d.exponent

/-- The digits around a point, filled with zeros up to it on either side: `120.0`, `0.05`. -/
def positional (d : Decimal) : List Char :=
  let digits := d.digitChars
  let point : Int := digits.length + d.exponent
  if point ≤ 0 then
    '0' :: '.' :: (List.replicate (-point).toNat '0' ++ digits)
  else if digits.length ≤ point.toNat then
    digits ++ List.replicate (point.toNat - digits.length) '0' ++ ['.', '0']
  else
    digits.take point.toNat ++ '.' :: digits.drop point.toNat

/-- The first digit, the others behind a point, and the exponent of the first: `1.5e-7`,
`1e16`. -/
def scientific (d : Decimal) : List Char :=
  let tail := d.digitChars.drop 1
  d.digitChars.take 1 ++ (if tail.isEmpty then [] else '.' :: tail) ++
    'e' :: (toString d.leadingExponent).toList

example : String.ofList (positional ⟨12, 1⟩) = "120.0" := by decide
example : String.ofList (positional ⟨5, -2⟩) = "0.05" := by decide
example : String.ofList (positional ⟨314, -2⟩) = "3.14" := by decide
example : String.ofList (scientific ⟨15, -8⟩) = "1.5e-7" := by decide
example : String.ofList (scientific ⟨1, 16⟩) = "1e16" := by decide

end Decimal

end StatementTree
