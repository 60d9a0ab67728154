import StatementTree.Proofs.Text.ExprReading
import StatementTree.Proofs.Text.LineBreaks

/-!
# What the text of a literal tells

A string literal delimits itself: a reader finds its end whatever follows, and has then read the
string. The text of a literal also tells which kind of literal it is and, floating-point numbers
apart, which literal. Floating-point numbers are set apart from whole numbers by a point or an
exponent, or by the names of those that are not finite.
-/

namespace StatementTree

/-- Whether a text spells a floating-point number: it names one that is not finite, or it is written
with the characters of numbers and has a point or an exponent. -/
def SpellsFloat (text : String) : Prop :=
  text ∈ ["NaN", "inf", "-inf"] ∨
    IsNumeral text.toList ∧ ('.' ∈ text.toList ∨ 'e' ∈ text.toList)

/-- The characters by which a floating-point number is told from a whole one. -/
def floatMarks : List Char := ['.', 'e', 'N', 'i']

/-- A spelled floating-point number has a mark that tells it from a whole one. -/
theorem SpellsFloat.exists_mark {text : String} (h : SpellsFloat text) :
    ∃ c ∈ floatMarks, c ∈ text.toList := by
  rcases h with hname | ⟨-, hpoint | hexponent⟩
  · have hnames : ∀ name ∈ ["NaN", "inf", "-inf"], 'N' ∈ name.toList ∨ 'i' ∈ name.toList := by
      decide
    rcases hnames text hname with hN | hi
    · exact ⟨'N', by decide, hN⟩
    · exact ⟨'i', by decide, hi⟩
  · exact ⟨'.', by decide, hpoint⟩
  · exact ⟨'e', by decide, hexponent⟩

namespace Literal

/-- The kinds of literals. -/
inductive Kind where
  | string | integer | float | boolean | null
  deriving DecidableEq

/-- The kind that a literal is of. -/
def kind : Literal → Kind
  | string _ => .string
  | integer _ => .integer
  | float _ => .float
  | boolean _ => .boolean
  | null => .null

/-- The literals of the kind of floating-point numbers are these. -/
theorem kind_eq_float_iff {value : Literal} : value.kind = .float ↔ value.isFloat = true := by
  cases value <;> simp [kind, isFloat]

/-- Behind its opening quote, the text of a string literal is read up to the quote that closes it.
What has been read is the string, what is left is all that followed the literal, and the text of the
literal is on one line. -/
theorem read_text_string (s after : String) :
    (∃ quoted, ((string s).text ++ after).toList = '"' :: quoted ∧
      Quoted.read quoted = some (s.toList, after.toList)) ∧
    OnOneLine (string s).text := by
  refine ⟨⟨Quoted.escape s.toList ++ '"' :: after.toList, ?_, ?_⟩, onOneLine_text _⟩
  · rw [String.toList_append, text_string_append]
  · exact Quoted.read_escape s.toList after.toList

example : Quoted.read "a\\\\\\\"n\\n\" + \"b\"".toList =
    some ("a\\\"n\n".toList, " + \"b\"".toList) := by decide

/-- A whole number is written with digits and a minus sign. -/
theorem mem_text_integer {value : Int64} {c : Char} (hc : c ∈ (integer value).text.toList) :
    c.isDigit = true ∨ c = '-' := by
  rcases Reader.text_integer value with ⟨n, hn, -⟩ | ⟨n, hn, -⟩
  · rw [hn] at hc
    exact .inl (Reader.isDigit_of_mem_repr hc)
  · rw [hn, String.toList_append, List.mem_append] at hc
    rcases hc with hminus | hdigit
    · exact .inr (by simpa using hminus)
    · exact .inl (Reader.isDigit_of_mem_repr hdigit)

/-- Floating-point numbers are spelled as such, and no other literal is. -/
theorem spellsFloat_text_iff {value : Literal} :
    SpellsFloat value.text ↔ value.isFloat = true := by
  cases value with
  | string s =>
    -- No spelling of a number begins with a quote.
    simp [SpellsFloat, text, Quoted.encode, isFloat, isNumeralChar, ← String.toList_inj]
  | integer value =>
    refine iff_of_false (fun h => ?_) (by simp [isFloat])
    obtain ⟨c, hmark, hc⟩ := h.exists_mark
    have hnone : ∀ d ∈ floatMarks, d.isDigit = false ∧ d ≠ '-' := by simp [floatMarks]
    obtain ⟨hdigit, hminus⟩ := hnone c hmark
    rcases mem_text_integer hc with h | h
    · rw [hdigit] at h
      cases h
    · exact hminus h
  | float x => exact iff_of_true x.text_cases rfl
  | boolean value =>
    cases value <;> simp [SpellsFloat, text, booleanText, isFloat, isNumeralChar]
  | null => simp [SpellsFloat, text, isFloat, isNumeralChar]

/-- A literal that is no floating-point number can be read back from its text. -/
theorem eq_of_text_eq {a b : Literal} (ha : a.isFloat = false) (hb : b.isFloat = false)
    (h : a.text = b.text) : a = b := by
  have hread {value : Literal} (hvalue : value.isFloat = false) :
      Reader.readExpr (value.text.toList ++ []) = some (.constant value, []) := by
    have hback := Reader.readsBack (e := .constant value) hvalue
    simpa [Expr.spanless] using hback.expr Reader.endsExpr_nil
  have hreada := hread ha
  rw [h, hread hb] at hreada
  simpa using hreada.symm

/-- Literals with one text are of one kind, and they are equal unless they are floating-point
numbers. So no floating-point number prints as a whole one, no string prints as anything else, and
different whole numbers have different texts. -/
theorem kind_eq_and_eq_of_text_eq {a b : Literal} (h : a.text = b.text) :
    a.kind = b.kind ∧ (a.kind ≠ .float → a = b) := by
  have hfloat : a.isFloat = b.isFloat := by
    rw [Bool.eq_iff_iff, ← spellsFloat_text_iff, ← spellsFloat_text_iff, h]
  cases ha : a.isFloat with
  | true =>
    have hkind := kind_eq_float_iff.mpr ha
    have hkindb := kind_eq_float_iff.mpr (hfloat ▸ ha)
    exact ⟨hkind.trans hkindb.symm, fun hne => absurd hkind hne⟩
  | false =>
    obtain rfl := eq_of_text_eq ha (hfloat ▸ ha) h
    exact ⟨rfl, fun _ => rfl⟩

/-- Two patterns of NaN print alike without being equal. A floating-point number of the value of a
whole one does not print as that does, and neither does the string of its digits. -/
theorem kind_eq_and_eq_of_text_eq_nan :
    let a : Literal := float ⟨0x7FF8000000000000⟩
    let b : Literal := float ⟨0xFFF8000000000001⟩
    (a.text = b.text ∧ a.kind = b.kind ∧ a ≠ b) ∧
      (float ⟨0x4341C37937E08000⟩).text ≠ (integer 10000000000000000).text ∧
      (string "-1").text ≠ (integer (-1)).text := by
  intro a b
  have htext : a.text = b.text := by decide
  refine ⟨⟨htext, (kind_eq_and_eq_of_text_eq htext).1, by decide⟩, fun h => ?_, fun h => ?_⟩
  · cases (kind_eq_and_eq_of_text_eq h).1
  · cases (kind_eq_and_eq_of_text_eq h).1

end Literal

end StatementTree
