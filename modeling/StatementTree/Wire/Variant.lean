import StatementTree.Wire.Error

/-!
# Choices

A choice between named alternatives is written as the bare name, or as an object whose only
member has the name as its key and what belongs to the alternative as its value. An object with
any other number of members is refused before a name is looked at.
-/

namespace StatementTree

namespace Json

/-- An alternative with what belongs to it. -/
def tagged (name : String) (payload : Json) : Json := object [(name, payload)]

/-- The alternative that a value names, with the payload when one is written. -/
def variant {τ : Type} (names : List (String × τ)) : Json → Except DecodeError (τ × Option Json)
  | string name =>
    match names.lookup name with
    | some tag => .ok (tag, none)
    | none => .error (.unknownVariant name)
  | object [(name, payload)] =>
    match names.lookup name with
    | some tag => .ok (tag, some payload)
    | none => .error (.unknownVariant name)
  | object _ => .error .invalidValue
  | _ => .error .invalidType

/-- The payload of an alternative that has none to offer is absent or null. -/
def noPayload : Option Json → Except DecodeError Unit
  | none | some null => .ok ()
  | some _ => .error .invalidType

/-- The alternative that a value names, none of which has a payload. -/
def bareVariant {τ : Type} (names : List (String × τ)) (j : Json) : Except DecodeError τ := do
  let (tag, payload) ← j.variant names
  noPayload payload
  return tag

/-- A payload is smaller than the choice that it belongs to. -/
theorem sizeOf_payload_lt {τ : Type} {names : List (String × τ)} {j payload : Json} {tag : τ}
    (h : j.variant names = .ok (tag, some payload)) : sizeOf payload < sizeOf j := by
  unfold variant at h
  split at h
  case h_1 => split at h <;> simp at h
  case h_2 name value =>
    split at h
    case h_1 =>
      simp only [Except.ok.injEq, Prod.mk.injEq, Option.some.injEq] at h
      obtain ⟨-, rfl⟩ := h
      simp only [object.sizeOf_spec, List.cons.sizeOf_spec, Prod.mk.sizeOf_spec]
      omega
    case h_2 => simp at h
  case h_3 => simp at h
  case h_4 => simp at h

end Json

end StatementTree
