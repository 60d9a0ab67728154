import StatementTree.Proofs.Text.Pieces

/-!
# Statements inside statements

A context is a statement with a hole in it, at any depth: a branch of a conditional or a statement
of a block stands there. The text of a statement that is put into the hole is part of the whole
text as it is. What stands around it depends on the context, and of the statement in the hole only
on whether it is a block and whether it is empty: the first decides about the semicolon in front of
an `else`, the second about the `else` itself.
-/

namespace StatementTree

/-- A statement with one hole. -/
inductive Context where
  /-- Nothing but the hole. -/
  | hole
  /-- The hole is in the then branch of a conditional. -/
  | inThenBranch (condition : Condition) (inner : Context) (elseBranch : Statement)
    (span : Span := {})
  /-- The hole is in the else branch of a conditional. -/
  | inElseBranch (condition : Condition) (thenBranch : Statement) (inner : Context)
    (span : Span := {})
  /-- The hole is in one of the statements of a block. -/
  | inBlock (earlier : List Statement) (inner : Context) (later : List Statement)
    (span : Span := {})

namespace Context

/-- Puts a statement into the hole. -/
def fill : Context → Statement → Statement
  | hole, s => s
  | inThenBranch condition inner elseBranch span, s =>
    .ifElse condition (inner.fill s) elseBranch span
  | inElseBranch condition thenBranch inner span, s =>
    .ifElse condition thenBranch (inner.fill s) span
  | inBlock earlier inner later span, s => .block (earlier ++ inner.fill s :: later) span

/-- Whether a filled context is a block, given whether the statement in the hole is one. -/
def fillsBlock : Context → Bool → Bool
  | hole, isBlock => isBlock
  | inThenBranch .., _ | inElseBranch .., _ => false
  | inBlock .., _ => true

/-- Whether a filled context is empty, given whether the statement in the hole is. -/
def fillsEmpty : Context → Bool → Bool
  | hole, isEmpty => isEmpty
  | _, _ => false

/-- Whether a filled context is a block depends only on whether the statement in the hole is. -/
theorem isBlock_fill (c : Context) (s : Statement) :
    (c.fill s).isBlock = c.fillsBlock s.isBlock := by
  cases c <;> rfl

/-- Whether a filled context is empty depends only on whether the statement in the hole is. -/
theorem isEmpty_fill (c : Context) (s : Statement) :
    (c.fill s).isEmpty = c.fillsEmpty s.isEmpty := by
  cases c <;> rfl

/-- What stands in front of the hole. The word `else` stands in front of an else branch that is
not empty. -/
def textBefore : Context → Bool → Bool → String
  | hole, _, _ => ""
  | inThenBranch condition inner _ _, isBlock, isEmpty =>
    "if (" ++ condition.text ++ ") " ++ inner.textBefore isBlock isEmpty
  | inElseBranch condition thenBranch inner _, isBlock, isEmpty =>
    "if (" ++ condition.text ++ ") " ++ thenBranch.text ++
      (if inner.fillsEmpty isEmpty then "" else thenBranch.elseSeparator) ++
        inner.textBefore isBlock isEmpty
  | inBlock earlier inner _ _, isBlock, isEmpty =>
    "\x7b " ++ String.join (earlier.map (·.text ++ "; ")) ++ inner.textBefore isBlock isEmpty

/-- What stands behind the hole. Whether a then branch is a block shows in front of the `else` that
follows it. -/
def textAfter : Context → Bool → Bool → String
  | hole, _, _ => ""
  | inThenBranch _ inner elseBranch _, isBlock, isEmpty =>
    inner.textAfter isBlock isEmpty ++ elseBranch.elseText (inner.fillsBlock isBlock)
  | inElseBranch _ _ inner _, isBlock, isEmpty => inner.textAfter isBlock isEmpty
  | inBlock _ inner later _, isBlock, isEmpty =>
    inner.textAfter isBlock isEmpty ++ String.join (later.map ("; " ++ ·.text)) ++ " \x7d"

/-- The text of a filled context is that of the statement in the hole, with a text in front of it
and one behind it. -/
theorem text_fill (c : Context) (s : Statement) :
    (c.fill s).text =
      c.textBefore s.isBlock s.isEmpty ++ s.text ++ c.textAfter s.isBlock s.isEmpty := by
  induction c with
  | hole => simp [fill, textBefore, textAfter]
  | inThenBranch condition inner elseBranch span ih =>
    rw [fill, Statement.text_ifElse_elseText, isBlock_fill, ih, textBefore, textAfter]
    simp only [String.append_assoc]
  | inElseBranch condition thenBranch inner span ih =>
    have helse : (inner.fill s).elseText thenBranch.isBlock =
        (if inner.fillsEmpty s.isEmpty then "" else thenBranch.elseSeparator) ++
          (inner.fill s).text := by
      unfold Statement.elseText
      rw [isEmpty_fill]
      split
      case isTrue hempty =>
        -- An empty branch has no text of its own either.
        rw [← isEmpty_fill, Statement.isEmpty_iff] at hempty
        rw [hempty, Statement.text_empty, String.append_empty]
      case isFalse => rfl
    rw [fill, Statement.text_ifElse_elseText, helse, ih, textBefore, textAfter]
    simp only [String.append_assoc]
  | inBlock earlier inner later span ih =>
    rw [fill, Statement.text_block, Statement.joinedText_append_cons, ih, textBefore, textAfter]
    simp only [String.append_assoc]

/-- For every context there are two texts, which depend on whether the statement in the hole is a
block and whether it is empty and on nothing else of it, such that the whole text is that of the
statement between these two. So statements that agree in their texts and in these two respects can
stand for each other everywhere. -/
theorem exists_text_fill_eq (c : Context) :
    (∃ before after : Bool → Bool → String, ∀ s : Statement,
      (c.fill s).text = before s.isBlock s.isEmpty ++ s.text ++ after s.isBlock s.isEmpty) ∧
    ∀ s t : Statement, s.text = t.text → s.isBlock = t.isBlock → s.isEmpty = t.isEmpty →
      (c.fill s).text = (c.fill t).text := by
  refine ⟨⟨c.textBefore, c.textAfter, c.text_fill⟩, fun s t htext hblock hempty => ?_⟩
  rw [text_fill, text_fill, htext, hblock, hempty]

/-- A call and a name that is spelled like it can stand for each other in front of an `else` inside
a block. -/
theorem exists_text_fill_eq_call :
    let c : Context := .inBlock [.empty]
      (.inThenBranch { expr := .var { name := "ready" } } .hole (.block [])) [.returning none]
    let s : Statement := .expression (.call "run" [])
    let t : Statement := .expression (.var { name := "run()" })
    (s.text = t.text ∧ s.isBlock = t.isBlock ∧ s.isEmpty = t.isEmpty) ∧
      (c.fill s).text = (c.fill t).text ∧
      (c.fill s).text = "\x7b ; if (ready) run(); else \x7b  \x7d; return \x7d" := by
  intro c s t
  have hagree : s.text = t.text ∧ s.isBlock = t.isBlock ∧ s.isEmpty = t.isEmpty := by decide
  exact ⟨hagree, (exists_text_fill_eq c).2 s t hagree.1 hagree.2.1 hagree.2.2, by decide⟩

end Context

end StatementTree
