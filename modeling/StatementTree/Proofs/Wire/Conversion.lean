import Mathlib.Tactic.Set
import StatementTree.Json

/-!
# Whole numbers as floating-point numbers

A whole number of 64 bits lies far below the largest finite floating-point number, so the
number that it converts to is always finite: no spelling of a floating-point number can bring
in an infinity.
-/

namespace StatementTree

namespace Binary64

/-- A magnitude that leaves the sign bit alone is the magnitude of the number made of it. -/
theorem magnitude_ofMagnitude (negative : Bool) {m : Nat} (hm : m < 2 ^ (63 : Nat)) :
    (ofMagnitude negative m).magnitude = m := by
  unfold magnitude ofMagnitude
  simp only [UInt64.toNat_ofNat']
  split <;> omega

/-- Rounding adds at most one to the quotient. -/
theorem roundToEven_le (num den : Nat) : roundToEven num den ≤ num / den + 1 := by
  unfold roundToEven
  simp only
  split <;> omega

/-- A number below `2 ^ 64` is rounded to a finite magnitude. Its scale is at most 1085, and the
rounded significand has at most one bit more than fifty-three. -/
theorem nearestMagnitude_lt {n : Nat} (hn : n < 2 ^ (64 : Nat)) :
    nearestMagnitude n 1 < infinityMagnitude := by
  unfold nearestMagnitude
  simp only [Nat.div_one, Nat.one_mul]
  set scaled := n * unitsPerOne with hscaled
  set scale := scaled.log2 - 52 with hscale
  have hpos : 0 < 2 ^ scale := Nat.pow_pos (by decide)
  obtain ⟨k, hk, hunits⟩ : ∃ k, k = 1074 ∧ unitsPerOne = 2 ^ k :=
    ⟨1074, rfl, by unfold unitsPerOne; rfl⟩
  have hlog : scaled.log2 < 64 + k := by
    by_cases hzero : scaled = 0
    · rw [hzero, Nat.log2_zero]
      omega
    · rw [Nat.log2_lt hzero, Nat.pow_add, ← hunits]
      exact Nat.mul_lt_mul_of_pos_right hn unitsPerOne_pos
  have hquotient : scaled / 2 ^ scale < 2 ^ (53 : Nat) := by
    rw [Nat.div_lt_iff_lt_mul hpos, ← Nat.pow_add]
    exact Nat.lt_of_lt_of_le Nat.lt_log2_self (Nat.pow_le_pow_right (by decide) (by omega))
  have hround := roundToEven_le scaled (2 ^ scale)
  have hscaleBound : scale * 2 ^ (52 : Nat) ≤ 1085 * 2 ^ (52 : Nat) :=
    Nat.mul_le_mul_right _ (by omega)
  have hsum : scale * 2 ^ (52 : Nat) + roundToEven scaled (2 ^ scale) < infinityMagnitude := by
    unfold infinityMagnitude
    omega
  exact Nat.lt_of_le_of_lt (Nat.min_le_right _ _) hsum

/-- A whole number of 64 bits converts to a finite number. -/
theorem isFinite_ofInt (n : WholeNumber) : (ofInt n.value).isFinite = true := by
  obtain ⟨value, lower, upper⟩ := n
  have hfinite : nearestMagnitude value.natAbs 1 < infinityMagnitude :=
    nearestMagnitude_lt (by omega)
  have hmagnitude : (ofInt value).magnitude = nearestMagnitude value.natAbs 1 := by
    refine magnitude_ofMagnitude _ (Nat.lt_trans hfinite ?_)
    decide
  simpa [isFinite, hmagnitude] using hfinite

end Binary64

end StatementTree
