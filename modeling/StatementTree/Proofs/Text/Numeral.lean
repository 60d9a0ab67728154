import StatementTree.Proofs.Text.Word

/-!
# The characters of numbers

A whole number is written with digits and a minus sign. A floating-point number that is neither
infinite nor a NaN is written with digits, minus signs, a point and an `e`, and there is always a
point or an `e` in it. All other literals are quoted texts or a few words.
-/

namespace StatementTree

/-- The characters that numbers are written with. -/
def isNumeralChar (c : Char) : Bool := c.isDigit || c = '-' || c = '.' || c = 'e'

/-- Whether some characters can all stand in a number. -/
def IsNumeral (cs : List Char) : Prop := ∀ c ∈ cs, isNumeralChar c = true

/-- Every character of an empty list can stand in a number. -/
@[simp] theorem isNumeral_nil : IsNumeral [] := by simp [IsNumeral]

/-- Characters can stand in a number when the first one and all others can. -/
@[simp] theorem isNumeral_cons {c : Char} {cs : List Char} :
    IsNumeral (c :: cs) ↔ isNumeralChar c = true ∧ IsNumeral cs := by
  simp [IsNumeral]

/-- Characters joined can stand in a number when both parts can. -/
@[simp] theorem isNumeral_append {cs ds : List Char} :
    IsNumeral (cs ++ ds) ↔ IsNumeral cs ∧ IsNumeral ds := by
  simp only [IsNumeral, List.forall_mem_append]

/-- What is picked from the characters of a number can stand in a number. -/
theorem IsNumeral.mono {cs ds : List Char} (h : IsNumeral ds) (hsub : cs ⊆ ds) : IsNumeral cs :=
  fun c hc => h c (hsub hc)

/-- Digits can stand in a number. -/
theorem isNumeral_of_isDigit {cs : List Char} (h : ∀ c ∈ cs, c.isDigit = true) : IsNumeral cs :=
  fun c hc => by simp [isNumeralChar, h c hc]

/-- A natural number is written with characters of numbers. -/
theorem isNumeral_repr (n : Nat) : IsNumeral n.repr.toList :=
  isNumeral_of_isDigit fun _ => Reader.isDigit_of_mem_repr

/-- An integer is written with characters of numbers, its sign included. -/
theorem isNumeral_toString (n : Int) : IsNumeral (toString n).toList := by
  have htext : toString n = n.repr := rfl
  rw [htext, Int.repr_eq_if]
  split
  · exact isNumeral_repr _
  · rw [String.toList_append, isNumeral_append]
    exact ⟨isNumeral_cons.mpr ⟨rfl, isNumeral_nil⟩, isNumeral_repr _⟩

namespace Decimal

/-- The digits of a decimal can stand in a number. -/
theorem isNumeral_digitChars (d : Decimal) : IsNumeral d.digitChars :=
  isNumeral_of_isDigit fun _ => Nat.isDigit_of_mem_toDigits (by omega) (by omega)

/-- The zeros around the digits can stand in a number. -/
theorem isNumeral_zeros (n : Nat) : IsNumeral (List.replicate n '0') :=
  isNumeral_of_isDigit fun c hc => by
    rw [List.eq_of_mem_replicate hc]
    rfl

/-- Positional notation always has a point. -/
theorem positional_spec (d : Decimal) : IsNumeral d.positional ∧ '.' ∈ d.positional := by
  have hdigits := d.isNumeral_digitChars
  have hpoint : isNumeralChar '.' = true := rfl
  have hzero : isNumeralChar '0' = true := rfl
  unfold positional
  dsimp only
  split
  · simp [hzero, hpoint, hdigits, isNumeral_zeros]
  · split
    · simp [hzero, hpoint, hdigits, isNumeral_zeros]
    · simp [hpoint, hdigits.mono (List.take_subset _ _), hdigits.mono (List.drop_subset _ _)]

/-- Scientific notation always has an exponent. -/
theorem scientific_spec (d : Decimal) : IsNumeral d.scientific ∧ 'e' ∈ d.scientific := by
  have hdigits := d.isNumeral_digitChars
  have hfirst : IsNumeral (d.digitChars.take 1) := hdigits.mono (List.take_subset _ _)
  have htail : IsNumeral (d.digitChars.drop 1) := hdigits.mono (List.drop_subset _ _)
  have hfraction : IsNumeral
      (if (d.digitChars.drop 1).isEmpty then [] else '.' :: d.digitChars.drop 1) := by
    split
    · exact isNumeral_nil
    · exact isNumeral_cons.mpr ⟨rfl, htail⟩
  unfold scientific
  refine ⟨?_, by simp⟩
  rw [isNumeral_append, isNumeral_append, isNumeral_cons]
  exact ⟨⟨hfirst, hfraction⟩, rfl, isNumeral_toString _⟩

end Decimal

namespace Binary64

/-- The text of a floating-point number names a number that is not finite, or it has only
characters of numbers and among them a point or an `e`. -/
theorem text_cases (x : Binary64) :
    x.text ∈ ["NaN", "inf", "-inf"] ∨
      IsNumeral x.text.toList ∧ ('.' ∈ x.text.toList ∨ 'e' ∈ x.text.toList) := by
  have hfinite : IsNumeral x.finiteText ∧ ('.' ∈ x.finiteText ∨ 'e' ∈ x.finiteText) := by
    unfold finiteText
    dsimp only
    split
    · exact ⟨x.shortest.positional_spec.1, .inl x.shortest.positional_spec.2⟩
    · exact ⟨x.shortest.scientific_spec.1, .inr x.shortest.scientific_spec.2⟩
  have hmagnitude : x.magnitudeText = ['i', 'n', 'f'] ∨
      IsNumeral x.magnitudeText ∧ ('.' ∈ x.magnitudeText ∨ 'e' ∈ x.magnitudeText) := by
    unfold magnitudeText
    split
    · exact .inr ⟨by simp [isNumeralChar], by simp⟩
    · split
      · exact .inl rfl
      · exact .inr hfinite
  unfold text
  by_cases hnan : x.isNaN = true
  · simp [hnan]
  · rcases hmagnitude with hinf | ⟨hnumeral, hmark⟩
    · left
      rw [if_neg hnan, hinf]
      cases x.isNegative <;> decide
    · right
      have hminus : isNumeralChar '-' = true := rfl
      rw [if_neg hnan, String.toList_ofList]
      cases x.isNegative <;> simp [hnumeral, hmark, hminus]

end Binary64

namespace Literal

/-- The words that are texts of literals. -/
def words : List String := ["NaN", "inf", "-inf", "true", "false", "null"]

/-- The text of a literal is a quoted text, a number or one of a few words. -/
theorem text_cases (value : Literal) :
    (∃ s, value.text = Quoted.encode s) ∨ IsNumeral value.text.toList ∨ value.text ∈ words := by
  cases value with
  | string s => exact .inl ⟨s, rfl⟩
  | integer value => exact .inr (.inl (isNumeral_toString value.toInt))
  | float x =>
    right
    rcases x.text_cases with hname | ⟨hnumeral, -⟩
    · exact .inr (List.mem_append_left ["true", "false", "null"] hname)
    · exact .inl hnumeral
  | boolean value => cases value <;> exact .inr (.inr (by decide))
  | null => exact .inr (.inr (by decide))

end Literal

end StatementTree
