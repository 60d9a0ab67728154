/-!
# Source spans

Every node of a tree remembers the range of bytes of the source text that it was built from,
so that a later pass can point at the source. A span never changes what a node prints; an
inverted range is allowed and counts as empty.
-/

namespace StatementTree

/-- A half-open range of byte offsets. A node that was built without a position carries the
empty range at offset zero. -/
structure Span where
  /-- The offset of the first byte. -/
  start : UInt64 := 0
  /-- The offset after the last byte. -/
  stop : UInt64 := 0
  deriving DecidableEq

namespace Span

/-- The default span is the empty one at the start. -/
instance : Inhabited Span := ⟨{}⟩

/-- A range is empty when it ends no later than it starts. -/
def isEmpty (s : Span) : Bool := s.stop ≤ s.start

/-- The number of bytes in the range; an inverted range has none. -/
def length (s : Span) : UInt64 := if s.isEmpty then 0 else s.stop - s.start

/-- Lengths are differences cut off at zero. -/
theorem toNat_length (s : Span) : s.length.toNat = s.stop.toNat - s.start.toNat := by
  unfold length isEmpty
  split
  case isTrue h =>
    have h : s.stop.toNat ≤ s.start.toNat := by simpa [UInt64.le_iff_toNat_le] using h
    simp [Nat.sub_eq_zero_of_le h]
  case isFalse h =>
    have h : s.start.toNat ≤ s.stop.toNat := by
      have h : ¬ s.stop.toNat ≤ s.start.toNat := by simpa [UInt64.le_iff_toNat_le] using h
      omega
    exact UInt64.toNat_sub_of_le _ _ (UInt64.le_iff_toNat_le.mpr h)

end Span

end StatementTree
