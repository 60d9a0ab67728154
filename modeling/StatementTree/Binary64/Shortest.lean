import StatementTree.Binary64.Basic

/-!
# The shortest decimal that reads back

The decimal numbers that round to a given floating-point number fill an interval around it.
Among them the one is chosen that lies on the coarsest grid of powers of ten, which is the one
with the fewest digits. On a grid only the two neighbours of the value need to be tried: if any
point of the grid lies in the interval, one of them does. Of two such neighbours the nearer is
taken, and the upper one when both are equally near.
-/

namespace StatementTree

namespace Binary64

/-- The decimals that round to one magnitude. The three bounds count quarters of the
lowest unit. -/
structure RoundingInterval where
  /-- Halfway to the next smaller magnitude. -/
  lower : Nat
  /-- The magnitude itself. -/
  centre : Nat
  /-- Halfway to the next larger magnitude. -/
  upper : Nat
  /-- Whether both bounds still round to the magnitude. -/
  closed : Bool

namespace RoundingInterval

/-- Whether a decimal lies in the interval. -/
def contains (i : RoundingInterval) (d : Decimal) : Bool :=
  let value := d.numerator * (4 * unitsPerOne)
  let lower := i.lower * d.denominator
  let upper := i.upper * d.denominator
  if i.closed then lower ≤ value ∧ value ≤ upper else lower < value ∧ value < upper

/-- Whether the centre is nearer to a grid point than to the next point above it. -/
def nearerBelow (i : RoundingInterval) (below : Decimal) : Bool :=
  let middle : Decimal := ⟨2 * below.digits + 1, below.exponent⟩
  2 * i.centre * middle.denominator < middle.numerator * (4 * unitsPerOne)

/-- The point of the grid of `10 ^ exponent` that stands for the interval, if any lies in it. -/
def onGrid? (i : RoundingInterval) (exponent : Int) : Option Decimal :=
  let unit : Decimal := ⟨1, exponent⟩
  let below : Decimal :=
    ⟨i.centre * unit.denominator / (unit.numerator * (4 * unitsPerOne)), exponent⟩
  let above : Decimal := ⟨below.digits + 1, exponent⟩
  match i.contains below, i.contains above with
  | true, true => some (if i.nearerBelow below then below else above)
  | true, false => some below
  | false, true => some above
  | false, false => none

/-- A point given by a grid lies in the interval. -/
theorem contains_of_onGrid? {i : RoundingInterval} {exponent : Int} {d : Decimal}
    (h : i.onGrid? exponent = some d) : i.contains d = true := by
  unfold onGrid? at h
  dsimp only at h
  split at h
  case h_1 hbelow habove =>
    rw [← Option.some.inj h]
    split
    · exact hbelow
    · exact habove
  case h_2 hbelow _ => rw [← Option.some.inj h]; exact hbelow
  case h_3 _ habove => rw [← Option.some.inj h]; exact habove
  case h_4 => exact nomatch h

end RoundingInterval

/-- The interval of a finite number. Next to a power of two the smaller neighbour is half as
far away as the larger one. A bound belongs to the interval when the significand is even. -/
def roundingInterval (x : Binary64) : RoundingInterval where
  lower := (4 * x.significand -
    if x.fraction = 0 ∧ 1 < x.exponentField then 1 else 2) * 2 ^ x.scale
  centre := 4 * x.significand * 2 ^ x.scale
  upper := (4 * x.significand + 2) * 2 ^ x.scale
  closed := x.significand % 2 = 0

/-- An exponent whose power of ten is larger than every decimal of the interval: the binary
exponent of a power of two above them all, divided by the binary logarithm of ten. -/
def coarsestExponent (x : Binary64) : Int :=
  ((x.significand.log2 + 1 + x.scale : Nat) - 1074 : Int) * 30103 / 100000 + 1

/-- All digits of a finite magnitude. -/
def exactDecimal (x : Binary64) : Decimal :=
  ⟨x.significand * 2 ^ x.scale * 5 ^ (1074 : Nat), -1074⟩

/-- The decimal with the fewest digits that rounds to a finite nonzero magnitude. Seventeen
digits always tell two floating-point numbers apart, so the search needs no more than twenty
grids. -/
def shortest (x : Binary64) : Decimal :=
  ((List.range 20).findSome? fun (step : Nat) =>
    x.roundingInterval.onGrid? (x.coarsestExponent - step)).getD x.exactDecimal

example : shortest ⟨0x3FB999999999999A⟩ = ⟨1, -1⟩ := by decide +kernel
example : shortest ⟨0x3FD3333333333334⟩ = ⟨30000000000000004, -17⟩ := by decide +kernel
example : shortest ⟨1⟩ = ⟨5, -324⟩ := by decide +kernel

end Binary64

end StatementTree
