import StatementTree.Binary64.Shortest

/-!
# The text of a floating-point number

A finite number prints the fewest digits that read back to it. Its notation depends on its
size alone: positional, with at least one digit behind the point, when the magnitude is zero or
between `10 ^ -4` (included) and `10 ^ 16` (excluded), and scientific otherwise. So the text of
a finite number always holds a point or an `e`, and no whole number prints like it.
-/

namespace StatementTree

namespace Binary64

/-- The least power of ten that is written positionally. -/
def leastPositionalExponent : Int := -4

/-- From this power of ten on, numbers are written scientifically. -/
def leastScientificExponent : Int := 16

/-- The digits of a finite nonzero magnitude in the notation that its size asks for. -/
def finiteText (x : Binary64) : List Char :=
  let d := x.shortest
  if leastPositionalExponent ≤ d.leadingExponent ∧
      d.leadingExponent < leastScientificExponent then
    d.positional
  else d.scientific

/-- The text of the magnitude, without a sign. -/
def magnitudeText (x : Binary64) : List Char :=
  if x.isZero then ['0', '.', '0']
  else if x.isInfinite then ['i', 'n', 'f']
  else x.finiteText

/-- The text of a number. Zero and infinity keep their sign; a NaN has none. -/
def text (x : Binary64) : String :=
  if x.isNaN then "NaN"
  else String.ofList ((if x.isNegative then ['-'] else []) ++ x.magnitudeText)

example : text ⟨0x8000000000000000⟩ = "-0.0" := by decide +kernel
example : text ⟨0x3FF0000000000000⟩ = "1.0" := by decide +kernel
example : text ⟨0x4341C37937E08000⟩ = "1e16" := by decide +kernel
example : text ⟨0xFFF0000000000000⟩ = "-inf" := by decide +kernel
example : text ⟨0x7FF8000000000000⟩ = "NaN" := by decide +kernel

end Binary64

end StatementTree
