import StatementTree.Binary64.Basic

/-!
# The nearest floating-point number

A fraction is rounded to the nearest multiple of the unit of its own magnitude; of two equally
near multiples the even one is taken, and what lies beyond the largest finite number becomes
infinite. Whole numbers and decimal numbers are read through the same rounding.
-/

namespace StatementTree

namespace Binary64

/-- The whole number nearest to `num / den`; of two equally near ones, the even one. -/
def roundToEven (num den : Nat) : Nat :=
  let floor := num / den
  let twice := 2 * (num % den)
  if den < twice ∨ twice = den ∧ floor % 2 = 1 then floor + 1 else floor

/-- A rounded fraction is at most half a unit away from it. -/
theorem roundToEven_near (num : Nat) {den : Nat} (hden : 0 < den) :
    2 * num ≤ 2 * (den * roundToEven num den) + den ∧
      2 * (den * roundToEven num den) ≤ 2 * num + den := by
  have hdiv := Nat.div_add_mod num den
  have hmod := Nat.mod_lt num hden
  unfold roundToEven
  simp only
  split
  case isTrue h =>
    rw [Nat.mul_add, Nat.mul_one]
    omega
  case isFalse h => omega

/-- A whole number is its own rounding. -/
theorem roundToEven_mul (n : Nat) {den : Nat} (hden : 0 < den) :
    roundToEven (n * den) den = n := by
  simp [roundToEven, Nat.mul_div_cancel _ hden, Nat.ne_of_lt hden]

/-- The magnitude nearest to `num / den`. The unit is a power of two of the
lowest units that leaves a significand of fifty-three bits, or the lowest unit when the
fraction is too small for that. Each unit more adds one to the exponent field, and a
significand that was rounded up to the next power of two carries into it. -/
def nearestMagnitude (num den : Nat) : Nat :=
  let scaled := num * unitsPerOne
  let scale := (scaled / den).log2 - 52
  min infinityMagnitude (scale * 2 ^ (52 : Nat) + roundToEven scaled (den * 2 ^ scale))

/-- The floating-point number nearest to a whole number. -/
def ofInt (n : Int) : Binary64 := ofMagnitude (n < 0) (nearestMagnitude n.natAbs 1)

/-- The floating-point number nearest to a decimal number. Exponents far outside the range of
the format are settled without the power of ten: such a number is infinite, or zero. -/
def ofDecimal (negative : Bool) (d : Decimal) : Binary64 :=
  ofMagnitude negative <|
    if d.digits = 0 then 0
    else if 400 < d.exponent then infinityMagnitude
    else if d.exponent < -(400 + d.digits.log2 : Int) then 0
    else nearestMagnitude d.numerator d.denominator

example : (ofInt 1).bits = 0x3FF0000000000000 := by decide +kernel
example : (ofInt (2 ^ (53 : Nat) + 1)).bits = (ofInt (2 ^ (53 : Nat))).bits := by decide +kernel
example : (ofInt (-9223372036854775808)).bits = 0xC3E0000000000000 := by decide +kernel
example : (ofDecimal false ⟨5, -324⟩).bits = 1 := by decide +kernel
example : (ofDecimal false ⟨1, 400⟩).isInfinite = true := by decide +kernel

end Binary64

end StatementTree
