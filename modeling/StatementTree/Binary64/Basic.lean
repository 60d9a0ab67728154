import StatementTree.Decimal

/-!
# Binary floating-point numbers of 64 bits

A number is its bit pattern: a sign bit, eleven bits of exponent and fifty-two bits of
fraction. The magnitude of a finite number is `significand * 2 ^ scale / unitsPerOne`, so every
question about values is one about natural numbers. Two relations compare such numbers: `=`
compares patterns, and `==` compares values, for which zero has one value under both signs
and a NaN equals nothing.
-/

namespace StatementTree

/-- A floating-point number in the 64-bit binary interchange format. -/
structure Binary64 where
  /-- The sign, exponent and fraction, from the highest bit down. -/
  bits : UInt64
  deriving DecidableEq

namespace Binary64

/-- The highest bit is the sign. -/
def isNegative (x : Binary64) : Bool := 2 ^ (63 : Nat) ≤ x.bits.toNat

/-- The pattern without its sign bit. Patterns of nonnegative numbers are ordered as their
values are. -/
def magnitude (x : Binary64) : Nat := x.bits.toNat % 2 ^ (63 : Nat)

/-- The eleven bits below the sign. -/
def exponentField (x : Binary64) : Nat := x.magnitude / 2 ^ (52 : Nat)

/-- The lowest fifty-two bits. -/
def fraction (x : Binary64) : Nat := x.magnitude % 2 ^ (52 : Nat)

/-- The pattern of positive infinity; magnitudes below it are the finite ones. -/
def infinityMagnitude : Nat := 2047 * 2 ^ (52 : Nat)

/-- A magnitude above infinity is no number. -/
def isNaN (x : Binary64) : Bool := infinityMagnitude < x.magnitude

/-- Infinity of either sign. -/
def isInfinite (x : Binary64) : Bool := x.magnitude = infinityMagnitude

/-- Neither infinite nor NaN. -/
def isFinite (x : Binary64) : Bool := x.magnitude < infinityMagnitude

/-- Zero of either sign. -/
def isZero (x : Binary64) : Bool := x.magnitude = 0

/-- The whole number that a finite value is a scaled multiple of: the fraction, with the
leading bit that a nonzero exponent field implies. -/
def significand (x : Binary64) : Nat :=
  if x.exponentField = 0 then x.fraction else 2 ^ (52 : Nat) + x.fraction

/-- The power of two, counted from `2 ^ -1074`, that scales the significand. Exponent fields
zero and one share the lowest scale. -/
def scale (x : Binary64) : Nat := x.exponentField - 1

/-- How many of the lowest units make one. -/
@[irreducible] def unitsPerOne : Nat := 2 ^ (1074 : Nat)

/-- One is a positive number of the lowest units. -/
theorem unitsPerOne_pos : 0 < unitsPerOne := by
  unfold unitsPerOne
  apply Nat.pow_pos
  decide

/-- The number with the given sign and magnitude pattern. -/
def ofMagnitude (negative : Bool) (magnitude : Nat) : Binary64 :=
  ⟨UInt64.ofNat (magnitude + if negative then 2 ^ (63 : Nat) else 0)⟩

/-- Equality of values: zeros are equal whatever their signs, and a NaN differs from every
number, itself included. -/
instance : BEq Binary64 where
  beq x y := !x.isNaN && !y.isNaN && (x.bits == y.bits || (x.isZero && y.isZero))

/-- Values are equal when no NaN is involved and the patterns agree or both are zeros. -/
theorem beq_iff {x y : Binary64} :
    (x == y) = true ↔
      x.isNaN = false ∧ y.isNaN = false ∧ (x = y ∨ x.isZero = true ∧ y.isZero = true) := by
  cases x with | mk x =>
  cases y with | mk y =>
  change (_ && _ && _) = true ↔ _
  simp [and_assoc]

/-- Every number is finite, infinite or NaN, and only one of the three. -/
theorem isFinite_eq_not (x : Binary64) : x.isFinite = (!x.isInfinite && !x.isNaN) := by
  unfold isFinite isInfinite isNaN
  rcases Nat.lt_trichotomy x.magnitude infinityMagnitude with h | h | h
  · simp [h, Nat.ne_of_lt h, Nat.lt_asymm h]
  · simp [h]
  · simp [h, Nat.lt_asymm h]

/-- A number is given back by its sign and magnitude. -/
theorem ofMagnitude_magnitude (x : Binary64) : ofMagnitude x.isNegative x.magnitude = x := by
  cases x with | mk b =>
  have hb : b.toNat < 2 ^ (64 : Nat) := b.toNat_lt
  unfold ofMagnitude
  congr 1
  apply UInt64.toNat_inj.mp
  simp only [isNegative, magnitude, decide_eq_true_eq, UInt64.toNat_ofNat']
  split <;> omega

end Binary64

end StatementTree
