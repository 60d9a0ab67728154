import StatementTree.Proofs.Text.Numeral
import StatementTree.Proofs.Text.Pieces

/-!
# Texts on one line

Nothing that the text of a tree adds on its own is a line break: numbers and operators have none,
and the one in a string literal is escaped. So a text is on one line when the names in the tree
are.
-/

namespace StatementTree

/-- Whether a text is on one line. -/
def OnOneLine (text : String) : Prop := '\n' ∉ text.toList

/-- A text can be searched for a line break. -/
instance : DecidablePred OnOneLine := fun text => inferInstanceAs (Decidable ('\n' ∉ text.toList))

/-- Texts joined are on one line when both are. -/
@[simp] theorem onOneLine_append {s t : String} :
    OnOneLine (s ++ t) ↔ OnOneLine s ∧ OnOneLine t := by
  simp [OnOneLine]

/-- A numeral is on one line. -/
theorem IsNumeral.onOneLine {text : String} (h : IsNumeral text.toList) : OnOneLine text :=
  fun hmem => absurd (h _ hmem) (by decide)

/-- No character is escaped as a line break. -/
theorem Quoted.lineBreak_notMem_escapeChar (c : Char) : '\n' ∉ Quoted.escapeChar c := by
  unfold Quoted.escapeChar
  -- Only the line break itself could put one there, and it has an escape of its own.
  by_cases hbreak : c = '\n'
  · subst hbreak
    decide
  · rw [if_neg hbreak]
    split
    · decide
    · split
      · decide
      · simpa using Ne.symm hbreak

/-- A quoted text is on one line, whatever it quotes. -/
theorem Quoted.onOneLine_encode (s : String) : OnOneLine (Quoted.encode s) := by
  have hescaped : '\n' ∉ Quoted.escape s.toList := by
    intro hmem
    obtain ⟨c, -, hc⟩ := List.mem_flatMap.mp hmem
    exact Quoted.lineBreak_notMem_escapeChar c hc
  simp [OnOneLine, Quoted.encode, hescaped]

/-- The text of a literal is on one line. -/
theorem Literal.onOneLine_text (value : Literal) : OnOneLine value.text := by
  rcases value.text_cases with ⟨s, hs⟩ | hnumeral | hword
  · rw [hs]
    exact Quoted.onOneLine_encode s
  · exact hnumeral.onOneLine
  · have hwords : ∀ word ∈ words, OnOneLine word := by decide
    exact hwords _ hword

/-- Being on one line is kept by writing. -/
theorem closedUnderWriting_onOneLine : ClosedUnderWriting OnOneLine where
  append hs ht := onOneLine_append.mpr ⟨hs, ht⟩
  parens h := by
    have hopen : OnOneLine "(" := by decide
    have hclose : OnOneLine ")" := by decide
    simp [hopen, h, hclose]
  braces h := by
    have hopen : OnOneLine "\x7b" := by decide
    have hclose : OnOneLine "\x7d" := by decide
    simp [hopen, h, hclose]
  literal := Literal.onOneLine_text
  symbol op := by cases op <;> decide
  fixed := by decide

/-- The text of a statement is on one line when the names in it are. -/
theorem Statement.onOneLine_text {s : Statement} (h : s.Labelled OnOneLine OnOneLine) :
    OnOneLine s.text :=
  closedUnderWriting_onOneLine.statementText h

end StatementTree
