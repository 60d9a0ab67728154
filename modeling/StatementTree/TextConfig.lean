/-!
# Sizes for writing text

A configuration says how much room the buffer for a text starts with, and with how much stack
left a walk over a deep tree asks for more, and how much. The sizes steer resources only: no
configuration changes what is written. Anyone may fill in any sizes; those that are checked when a
configuration is made of them make sense.
-/

namespace StatementTree

/-- The room that the buffer for a text starts with, in bytes. -/
def textInitialCapacity : Nat := 64

/-- The size of one segment of stack for a walk over a deep tree, in bytes. -/
def stackSegmentBytes : Nat := 8 * 1024 * 1024

/-- The rest of the stack that makes a walk ask for a new segment, in bytes. -/
def stackRedZoneBytes : Nat := 128 * 1024

/-- How many diagnostics one validation records. Findings beyond it are only counted. -/
def maxDiagnostics : Nat := 256

/-- The sizes that writing text and walking trees run with. -/
structure TextConfig where
  /-- The room that a buffer starts with, in bytes. -/
  initialCapacity : Nat := textInitialCapacity
  /-- The rest of the stack that makes a walk ask for more, in bytes. -/
  redZoneBytes : Nat := stackRedZoneBytes
  /-- How much stack a walk asks for at a time, in bytes. -/
  stackGrowthBytes : Nat := stackSegmentBytes
  deriving DecidableEq

/-- Why sizes do not make a configuration. -/
inductive ConfigError where
  /-- The buffer would start without room. -/
  | invalidCapacity (capacity : Nat)
  /-- The red zone is empty or does not fit into a segment. -/
  | invalidStackSizes (redZone growth : Nat)
  deriving DecidableEq

/-- What is reported to the caller. -/
def ConfigError.message : ConfigError → String
  | invalidCapacity capacity => "initial_capacity must be positive: " ++ toString capacity
  | invalidStackSizes redZone growth =>
    "red zone (" ++ toString redZone ++
      " bytes) must be positive and smaller than the growth size (" ++ toString growth ++ " bytes)"

namespace TextConfig

/-- Sizes are the default ones where no others are asked for. -/
instance : Inhabited TextConfig := ⟨{}⟩

/-- Makes a configuration of three sizes. The capacity is checked before the stack sizes. -/
def ofSizes (initialCapacity redZoneBytes stackGrowthBytes : Nat) :
    Except ConfigError TextConfig :=
  if initialCapacity = 0 then .error (.invalidCapacity initialCapacity)
  else if redZoneBytes = 0 ∨ stackGrowthBytes ≤ redZoneBytes then
    .error (.invalidStackSizes redZoneBytes stackGrowthBytes)
  else .ok { initialCapacity, redZoneBytes, stackGrowthBytes }

/-- Whether the sizes make sense: a buffer starts with some room, and a walk asks for more stack
before none is left, and for more than was left. -/
structure Valid (c : TextConfig) : Prop where
  /-- A buffer starts with some room. -/
  capacity_pos : 0 < c.initialCapacity
  /-- More stack is asked for before none is left. -/
  redZone_pos : 0 < c.redZoneBytes
  /-- More stack is asked for than was left. -/
  redZone_lt_growth : c.redZoneBytes < c.stackGrowthBytes

/-- Sizes that make sense are accepted as they are, and no others are. -/
theorem ofSizes_eq_ok_iff {initialCapacity redZoneBytes stackGrowthBytes : Nat} {c : TextConfig} :
    ofSizes initialCapacity redZoneBytes stackGrowthBytes = .ok c ↔
      c = { initialCapacity, redZoneBytes, stackGrowthBytes } ∧ c.Valid := by
  unfold ofSizes
  constructor
  · intro h
    split at h
    case isTrue => cases h
    case isFalse hcapacity =>
      split at h
      case isTrue => cases h
      case isFalse hstack =>
        obtain rfl := Except.ok.inj h
        exact ⟨rfl, Nat.pos_of_ne_zero hcapacity,
          Nat.pos_of_ne_zero fun hpos => hstack (.inl hpos),
          Nat.lt_of_not_le fun hle => hstack (.inr hle)⟩
  · rintro ⟨rfl, hcapacity, hpos, hlt⟩
    dsimp only at hcapacity hpos hlt
    rw [if_neg (by omega), if_neg (by omega)]

/-- The default sizes pass their own check. -/
theorem valid_default : Valid {} := by
  constructor <;> decide

end TextConfig

end StatementTree
