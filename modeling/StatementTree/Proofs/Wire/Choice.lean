import Mathlib.Data.List.Forall2
import StatementTree.Proofs.Wire.Reading

/-!
# Choices and lists on the wire

When a choice names an alternative, with or without a payload, and when a list or a value that
may be null can be read. Each lemma inverts one reader, so that later proofs never open it.
-/

namespace StatementTree

namespace Json

variable {τ α : Type}

/-- A payload is found exactly where a known name is the only key of an object. -/
theorem variant_eq_ok_some {names : List (String × τ)} {j payload : Json} {tag : τ} :
    j.variant names = .ok (tag, some payload) ↔
      ∃ name, j = tagged name payload ∧ names.lookup name = some tag := by
  constructor
  · intro h
    unfold variant at h
    split at h
    case h_1 => split at h <;> simp at h
    case h_2 name value =>
      split at h
      case h_1 found hfound =>
        simp only [Except.ok.injEq, Prod.mk.injEq, Option.some.injEq] at h
        obtain ⟨rfl, rfl⟩ := h
        exact ⟨name, rfl, hfound⟩
      case h_2 => simp at h
    case h_3 => simp at h
    case h_4 => simp at h
  · rintro ⟨name, rfl, hname⟩
    simp [tagged, variant, hname]

/-- A known name on its own names an alternative without a payload. -/
theorem variant_eq_ok_none {names : List (String × τ)} {j : Json} {tag : τ} :
    j.variant names = .ok (tag, none) ↔
      ∃ name, j = string name ∧ names.lookup name = some tag := by
  constructor
  · intro h
    unfold variant at h
    split at h
    case h_1 name =>
      split at h
      case h_1 found hfound =>
        simp only [Except.ok.injEq, Prod.mk.injEq, and_true] at h
        subst h
        exact ⟨name, rfl, hfound⟩
      case h_2 => simp at h
    case h_2 => split at h <;> simp at h
    case h_3 => simp at h
    case h_4 => simp at h
  · rintro ⟨name, rfl, hname⟩
    simp [variant, hname]

/-- The variant of a tagged value is found by its name. -/
theorem variant_tagged {names : List (String × τ)} {name : String} {tag : τ}
    (h : names.lookup name = some tag) (payload : Json) :
    (tagged name payload).variant names = .ok (tag, some payload) :=
  variant_eq_ok_some.mpr ⟨name, rfl, h⟩

/-- An alternative without a payload is named on its own or with null. -/
theorem bareVariant_eq_ok {names : List (String × τ)} {j : Json} {tag : τ} :
    j.bareVariant names = .ok tag ↔
      ∃ name, names.lookup name = some tag ∧ (j = string name ∨ j = tagged name null) := by
  have hbare : j.bareVariant names = .ok tag ↔
      j.variant names = .ok (tag, none) ∨ j.variant names = .ok (tag, some null) := by
    unfold bareVariant
    cases j.variant names with
    | error e => simp [Bind.bind, Except.bind]
    | ok found =>
      obtain ⟨other, payload⟩ := found
      rcases payload with _ | payload
      · simp [noPayload, Bind.bind, Except.bind, Pure.pure, Except.pure]
      · cases payload <;>
          simp [noPayload, Bind.bind, Except.bind, Pure.pure, Except.pure]
  rw [hbare, variant_eq_ok_none, variant_eq_ok_some]
  constructor
  · rintro (⟨name, hj, hname⟩ | ⟨name, hj, hname⟩)
    · exact ⟨name, hname, .inl hj⟩
    · exact ⟨name, hname, .inr hj⟩
  · rintro ⟨name, hname, hj | hj⟩
    · exact .inl ⟨name, hj, hname⟩
    · exact .inr ⟨name, hj, hname⟩

/-- A list can be read when every item can. -/
theorem readAll_eq_ok {read : Json → Except DecodeError α} {items : List Json} {as : List α} :
    (readAll items fun item _ => read item) = .ok as ↔
      List.Forall₂ (fun item a => read item = .ok a) items as := by
  induction items generalizing as with
  | nil => cases as <;> simp [readAll]
  | cons item rest ih =>
    rw [readAll, List.forall₂_cons_left_iff]
    cases hitem : read item with
    | error e => simp
    | ok a =>
      simp only [Except.ok.injEq]
      cases hrest : readAll rest fun item _ => read item with
      | error e => simp [Except.map, ← ih, hrest]
      | ok bs => simp [Except.map, ← ih, hrest, eq_comm]

/-- An array can be read when every item can. -/
theorem asArray_eq_ok {read : Json → Except DecodeError α} {j : Json} {as : List α} :
    (j.asArray fun item _ => read item) = .ok as ↔
      ∃ items, j = array items ∧ List.Forall₂ (fun item a => read item = .ok a) items as := by
  cases j with
  | array items => simp [asArray, readAll_eq_ok]
  | _ => simp [asArray]

end Json

end StatementTree
