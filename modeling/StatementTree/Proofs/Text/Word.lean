import StatementTree.Expr.Text
import StatementTree.Proofs.Text.Readable

/-!
# Reading words

A word is read as far as it goes. Names, whole numbers and the words for constants are all made
of word characters, so each of them is one word when nothing that follows could continue it, and
no two of them are the same word.
-/

namespace StatementTree

namespace Reader

/-- The word at the start of a text, and the text behind it. -/
def word (cs : List Char) : String × List Char :=
  (String.ofList (cs.takeWhile isWordChar), cs.dropWhile isWordChar)

/-- A text that does not continue a word before it. -/
def EndsWord (after : List Char) : Prop := ∀ c ∈ after.head?, isWordChar c = false

/-- A word ends in front of a character that no word has. -/
theorem endsWord_cons {c : Char} {cs : List Char} : EndsWord (c :: cs) ↔ isWordChar c = false := by
  simp [EndsWord]

/-- A word is read up to where it ends. -/
theorem word_append {w : String} {after : List Char} (hw : isWord w = true)
    (hafter : EndsWord after) : word (w.toList ++ after) = (w, after) := by
  have hw := isWord_iff.mp hw
  unfold word
  rw [List.takeWhile_append_of_pos hw, List.dropWhile_append_of_pos hw]
  cases after with
  | nil => simp
  | cons c cs => simp [endsWord_cons.mp hafter]

/-- The number that a word of digits stands for. -/
def number (digits : String) : Nat := Nat.ofDigitChars 10 digits.toList 0

/-- What a word stands for on its own. -/
def wordExpr (w : String) : Expr :=
  if w = "true" then .constant (.boolean true)
  else if w = "false" then .constant (.boolean false)
  else if w = "null" then .constant .null
  else if w.toList.head?.any Char.isDigit then .constant (.integer (Int64.ofInt (number w)))
  else .var { name := w }

/-- A number is read back from its digits. -/
theorem number_repr (n : Nat) : number n.repr = n := by
  unfold number
  rw [Nat.toList_repr, Nat.ofDigitChars_ten_toDigits]

/-- A character of a class is none of those outside the class. -/
theorem ne_of_class {p : Char → Bool} {c d : Char} (hc : p c = true) (hd : p d = false) :
    c ≠ d := by
  rintro rfl
  rw [hc] at hd
  cases hd

/-- Digits are characters of words. -/
theorem isWordChar_of_isDigit {c : Char} (h : c.isDigit = true) : isWordChar c = true := by
  simp [isWordChar, Char.isAlphanum, h]

/-- A natural number is written in digits. -/
theorem isDigit_of_mem_repr {n : Nat} {c : Char} (hc : c ∈ n.repr.toList) : c.isDigit = true := by
  rw [Nat.toList_repr] at hc
  exact Nat.isDigit_of_mem_toDigits (by omega) (by omega) hc

/-- A number starts with a digit. -/
theorem repr_eq_cons (n : Nat) : ∃ c cs, n.repr.toList = c :: cs ∧ c.isDigit = true := by
  cases hdigits : n.repr.toList with
  | nil => simp at hdigits
  | cons c cs =>
    have hc : c ∈ n.repr.toList := by simp [hdigits]
    exact ⟨c, cs, rfl, isDigit_of_mem_repr hc⟩

/-- The words that only statements start with. -/
def statementWords : List String := ["if", "else", "return"]

/-- A word that is an expression on its own. -/
structure IsWordOf (w : String) (e : Expr) : Prop where
  /-- It is made of characters of words. -/
  word : isWord w = true
  /-- It is not empty. -/
  ne_empty : w ≠ ""
  /-- No statement starts with it. -/
  free : w ∉ statementWords
  /-- The expression is what it stands for. -/
  meaning : wordExpr w = e

/-- A word that is an expression has a first character, which is one of words. -/
theorem IsWordOf.eq_cons {w : String} {e : Expr} (h : IsWordOf w e) :
    ∃ c cs, w.toList = c :: cs ∧ isWordChar c = true := by
  obtain ⟨c, cs, hw⟩ := List.exists_cons_of_ne_nil fun hnil =>
    h.ne_empty (String.toList_eq_nil_iff.mp hnil)
  exact ⟨c, cs, hw, isWord_iff.mp h.word c (by simp [hw])⟩

/-- A plain name is a name. -/
theorem isWordOf_of_isPlain {name : String} (h : IsPlain name) :
    IsWordOf name (.var { name }) := by
  obtain ⟨c, cs, hname, -, hdigit⟩ := h.eq_cons
  have hfree := h.free
  simp only [reservedWords, List.mem_cons, not_or] at hfree
  obtain ⟨hif, helse, hreturn, htrue, hfalse, hnull, -⟩ := hfree
  constructor
  · exact h.word
  · rintro rfl
    simp at hname
  · simp [statementWords, hif, helse, hreturn]
  · unfold wordExpr
    rw [if_neg htrue, if_neg hfalse, if_neg hnull, hname]
    simp [hdigit]

/-- The digits of a number are a whole number. -/
theorem isWordOf_repr (n : Nat) : IsWordOf n.repr (.constant (.integer (Int64.ofInt n))) := by
  obtain ⟨c, cs, hdigits, hdigit⟩ := repr_eq_cons n
  have hne {w : String} (hw : w.toList.head?.any Char.isDigit = false) : n.repr ≠ w := by
    rintro rfl
    simp [hdigits, hdigit] at hw
  have hif : n.repr ≠ "if" := hne (by decide)
  have helse : n.repr ≠ "else" := hne (by decide)
  have hreturn : n.repr ≠ "return" := hne (by decide)
  constructor
  · exact isWord_iff.mpr fun _ hc => isWordChar_of_isDigit (isDigit_of_mem_repr hc)
  · exact Nat.repr_ne_empty
  · simp [statementWords, hif, helse, hreturn]
  · unfold wordExpr
    rw [if_neg (hne (by decide)), if_neg (hne (by decide)), if_neg (hne (by decide)), hdigits,
      number_repr]
    simp [hdigit]

/-- The text of a whole number is a word, or a word behind a minus sign. -/
theorem text_integer (value : Int64) :
    (∃ n : Nat, (Literal.integer value).text = n.repr ∧ Int64.ofInt n = value) ∨
      ∃ n : Nat, (Literal.integer value).text = "-" ++ n.repr ∧ Int64.ofInt (-n) = value := by
  have htext : (Literal.integer value).text = value.toInt.repr := rfl
  rw [htext, Int.repr_eq_if]
  by_cases hsign : 0 ≤ value.toInt
  · left
    refine ⟨value.toInt.toNat, if_pos hsign, ?_⟩
    rw [Int.toNat_of_nonneg hsign, Int64.ofInt_toInt]
  · right
    refine ⟨(-value.toInt).toNat, if_neg hsign, ?_⟩
    rw [Int.toNat_of_nonneg (by omega), Int.neg_neg, Int64.ofInt_toInt]

/-- A literal that is no floating-point number is a word, a quoted text, or a number behind a
minus sign. -/
theorem literal_cases {value : Literal} (h : value.isFloat = false) :
    IsWordOf value.text (.constant value) ∨ (∃ s, value = .string s) ∨
      ∃ n : Nat, value.text = "-" ++ n.repr ∧ value = .integer (Int64.ofInt (-n)) := by
  cases value with
  | string s => exact .inr (.inl ⟨s, rfl⟩)
  | integer value =>
    rcases text_integer value with ⟨n, hn, rfl⟩ | ⟨n, hn, rfl⟩
    · rw [hn]
      exact .inl (isWordOf_repr n)
    · exact .inr (.inr ⟨n, hn, rfl⟩)
  | float x => cases h
  | boolean value =>
    left
    cases value
    · exact ⟨by decide, by decide, by decide, rfl⟩
    · exact ⟨by decide, by decide, by decide, rfl⟩
  | null => exact .inl ⟨by decide, by decide, by decide, rfl⟩

end Reader

end StatementTree
