import StatementTree.Proofs.Text.StatementReading

/-!
# A readable text determines its tree

Reading the text of a statement gives the statement back without its spans, so two readable
statements with one text are equal up to spans. What follows a statement must not continue it:
after a conditional without an `else` there must be none, and inside a block this is so because
no statement starts with the word `else`.
-/

namespace StatementTree

open Reader

namespace Reader

/-- What is left behind a prefix is what follows it. -/
theorem eq_append_of_isPrefixOf? {p cs rest : List Char} (h : p.isPrefixOf? cs = some rest) :
    cs = p ++ rest := by
  induction p generalizing cs with
  | nil => exact Option.some.inj h
  | cons c p ih =>
    cases cs with
    | nil => cases h
    | cons d cs =>
      have hstep : (c :: p).isPrefixOf? (d :: cs) = if c == d then p.isPrefixOf? cs else none :=
        rfl
      rw [hstep] at h
      by_cases hc : c = d
      · rw [if_pos (beq_iff_eq.mpr hc)] at h
        rw [hc, ih h]
        rfl
      · rw [if_neg (by simpa using hc)] at h
        cases h

/-- What stands in front of an else branch can be taken off again. -/
theorem isPrefixOf?_elseSeparator (s : Statement) (rest : List Char) :
    s.elseSeparator.toList.isPrefixOf? (s.elseSeparator.toList ++ rest) = some rest := by
  unfold Statement.elseSeparator
  split <;> rfl

/-- A text that does not continue a statement before it. Nothing continues a block. -/
def EndsBefore (s : Statement) (after : List Char) : Prop :=
  s.isBlock = true ∨ EndsStatement after ∧ (s.isIf = true → NoElse after)

/-- What stands before an else branch ends a then branch that is no conditional. -/
theorem endsBefore_elseSeparator {thenBranch : Statement} (h : thenBranch.isIf = false)
    (rest : List Char) : EndsBefore thenBranch (thenBranch.elseSeparator.toList ++ rest) := by
  unfold EndsBefore Statement.elseSeparator
  split
  case isTrue hblock => exact .inl hblock
  case isFalse =>
    refine .inr ⟨.semicolon _, fun hif => ?_⟩
    rw [h] at hif
    cases hif

/-- A text behind a then branch is no `else` when it does not continue the conditional. -/
theorem EndsStatement.isPrefixOf?_elseSeparator {after : List Char} (h : EndsStatement after)
    (helse : NoElse after) (thenBranch : Statement) :
    thenBranch.elseSeparator.toList.isPrefixOf? after = none := by
  unfold Statement.elseSeparator
  split
  · cases h <;> rfl
  · exact helse

/-- A conditional without an `else` is read with its then branch. -/
theorem readIf_thenBranch {e : Expr} (he : e.Readable) {thenText after : List Char}
    {thenBranch : Statement}
    (hthen : readStatement (thenText ++ after) = some (thenBranch, after))
    (helse : thenBranch.elseSeparator.toList.isPrefixOf? after = none) :
    readIf (' ' :: '(' :: (e.text.toList ++ ')' :: ' ' :: (thenText ++ after))) =
      some (.ifElse { expr := e.spanless } thenBranch .empty, after) := by
  rw [readIf, (readsBack he).expr (endsExpr_cons (.inl rfl) _)]
  simp only [hthen, helse]
  rw [dif_pos (by simp; omega)]

/-- A conditional with an `else` is read with both branches. -/
theorem readIf_elseBranch {e : Expr} (he : e.Readable) {thenText elseText after : List Char}
    {thenBranch elseBranch : Statement}
    (hthen : readStatement (thenText ++
        (thenBranch.elseSeparator.toList ++ (elseText ++ after))) =
      some (thenBranch, thenBranch.elseSeparator.toList ++ (elseText ++ after)))
    (helse : readStatement (elseText ++ after) = some (elseBranch, after)) :
    readIf (' ' :: '(' :: (e.text.toList ++ ')' :: ' ' :: (thenText ++
        (thenBranch.elseSeparator.toList ++ (elseText ++ after))))) =
      some (.ifElse { expr := e.spanless } thenBranch elseBranch, after) := by
  rw [readIf, (readsBack he).expr (endsExpr_cons (.inl rfl) _)]
  simp only [hthen, isPrefixOf?_elseSeparator, helse]
  rw [dif_pos (by simp; omega), dif_pos (by simp; omega)]
  rfl

/-- A block without statements is read as such. -/
theorem readBlock_nil (after : List Char) : readBlock (' ' :: '}' :: after) = some ([], after) := by
  rw [readBlock]

/-- A block that goes on with a character other than a space is read as statements. -/
theorem readBlock_of_ne {c : Char} {cs : List Char} (hc : c ≠ ' ') :
    readBlock (c :: cs) = readStatements (c :: cs) := by
  rw [readBlock]
  intro rest h
  exact hc (List.cons.inj h).1

end Reader

namespace Statement

/-- What follows a statement of a block: the other statements and the end of the block. -/
def blockTail (rest : List Statement) (after : List Char) : List Char :=
  if rest.isEmpty then ' ' :: '}' :: after
  else ';' :: ' ' :: ((joinedText rest).toList ++ ' ' :: '}' :: after)

/-- The text of a block without its opening is that of its first statement and what follows it. -/
theorem joinedText_cons (s : Statement) (rest : List Statement) (after : List Char) :
    (joinedText (s :: rest)).toList ++ ' ' :: '}' :: after =
      s.text.toList ++ blockTail rest after := by
  cases rest <;> simp [blockTail]

/-- A statement in a block ends where the next one or the closing brace follows. -/
theorem endsStatement_blockTail (rest : List Statement) (after : List Char) :
    EndsStatement (blockTail rest after) := by
  cases rest with
  | nil => exact .brace after
  | cons s rest => exact .semicolon _

/-- In a block no statement follows a conditional as its `else`. -/
theorem noElse_blockTail {rest : List Statement} (hrest : ReadableAll rest) (after : List Char) :
    NoElse (blockTail rest after) := by
  cases rest with
  | nil => rfl
  | cons s rest =>
    have htail := endsStatement_blockTail rest after
    have hword := word_text_ne_else hrest.1 htail.word
    unfold NoElse blockTail
    rw [if_neg (by simp), joinedText_cons]
    cases hprefix : "; else ".toList.isPrefixOf?
        (';' :: ' ' :: (s.text.toList ++ blockTail rest after)) with
    | none => rfl
    | some more =>
      have hall := eq_append_of_isPrefixOf? hprefix
      have htext : s.text.toList ++ blockTail rest after = "else".toList ++ ' ' :: more := by
        simpa using hall
      rw [htext, word_append (by decide) (endsWord_cons.mpr rfl)] at hword
      exact absurd rfl hword

/-- The statements of a block are read back when each of them is. -/
theorem readStatements_joinedText {s : Statement} {rest : List Statement}
    (hreadable : ReadableAll (s :: rest))
    (h : ∀ t ∈ s :: rest, t.Readable → ∀ {after}, EndsBefore t after →
      readStatement (t.text.toList ++ after) = some (t.spanless, after))
    (after : List Char) :
    readStatements ((joinedText (s :: rest)).toList ++ ' ' :: '}' :: after) =
      some (spanlessAll (s :: rest), after) := by
  induction rest generalizing s with
  | nil =>
    have hends : EndsBefore s (blockTail [] after) := .inr ⟨.brace after, fun _ => rfl⟩
    rw [joinedText_cons, readStatements, h s (by simp) hreadable.1 hends]
    rfl
  | cons next rest ih =>
    have htail := ih hreadable.2 fun t ht => h t (List.mem_cons_of_mem _ ht)
    have hends : EndsBefore s (blockTail (next :: rest) after) :=
      .inr ⟨.semicolon _, fun _ => noElse_blockTail hreadable.2 after⟩
    rw [joinedText_cons, readStatements, h s (by simp) hreadable.1 hends]
    unfold blockTail
    simp only [List.isEmpty_cons, Bool.false_eq_true, if_false, htail]
    rw [dif_pos (by simp; omega)]
    rfl

/-- The first character of a block with statements is no space when not all that is in the block
is the empty statement. -/
theorem joinedText_eq_cons {s : Statement} {rest : List Statement} (hs : s.Readable)
    (hne : s :: rest ≠ [empty]) (after : List Char) :
    ∃ c cs, (joinedText (s :: rest)).toList ++ ' ' :: '}' :: after = c :: cs ∧ c ≠ ' ' := by
  rw [joinedText_cons]
  by_cases hempty : s = empty
  · subst hempty
    cases rest with
    | nil => exact absurd rfl hne
    | cons next rest =>
      rw [text_empty]
      exact ⟨';', _, rfl, by decide⟩
  · obtain ⟨c, cs, htext, hc, -⟩ := hs.text_eq_cons hempty
    exact ⟨c, cs ++ blockTail rest after, by rw [htext, List.cons_append], hc⟩

/-- Reading takes the text of a readable statement back, up to spans. -/
theorem readStatement_text {s : Statement} (hs : s.Readable) {after : List Char}
    (hafter : EndsBefore s after) :
    readStatement (s.text.toList ++ after) = some (s.spanless, after) := by
  induction s generalizing after with
  | ifElse condition thenBranch elseBranch span ihthen ihelse =>
    obtain ⟨hcondition, hthen, helse, hdangling⟩ := hs
    obtain hblock | ⟨hends, hif⟩ := hafter
    · cases hblock
    · have hnone : NoElse after := hif rfl
      by_cases hempty : elseBranch = empty
      · subst hempty
        have hbranch := ihthen hthen (.inr ⟨hends, fun _ => hnone⟩)
        have htext : (ifElse condition thenBranch empty span).text.toList ++ after =
            "if".toList ++ ' ' :: '(' :: (condition.expr.text.toList ++ ')' :: ' ' ::
              (thenBranch.text.toList ++ after)) := by
          simp [Condition.text]
        rw [htext, readStatement_if (endsWord_cons.mpr rfl),
          readIf_thenBranch hcondition hbranch (hends.isPrefixOf?_elseSeparator hnone _)]
        rfl
      · have hnotIf : thenBranch.isIf = false := hdangling.resolve_left hempty
        have hisEmpty : elseBranch.isEmpty = false := by
          rw [← Bool.not_eq_true, isEmpty_iff]
          exact hempty
        have hbefore := endsBefore_elseSeparator hnotIf (elseBranch.text.toList ++ after)
        have hbranch := ihthen hthen hbefore
        have hother := ihelse helse (.inr ⟨hends, fun _ => hnone⟩)
        have htext : (ifElse condition thenBranch elseBranch span).text.toList ++ after =
            "if".toList ++ ' ' :: '(' :: (condition.expr.text.toList ++ ')' :: ' ' ::
              (thenBranch.text.toList ++
                (thenBranch.elseSeparator.toList ++ (elseBranch.text.toList ++ after)))) := by
          rw [text_ifElse hisEmpty]
          simp [Condition.text]
        rw [← elseSeparator_spanless thenBranch] at hbranch htext
        rw [htext, readStatement_if (endsWord_cons.mpr rfl),
          readIf_elseBranch hcondition hbranch hother]
        rfl
  | block statements span ih =>
    obtain ⟨hall, hne⟩ := hs
    have htext : (block statements span).text.toList ++ after =
        '{' :: ' ' :: ((joinedText statements).toList ++ ' ' :: '}' :: after) := by simp
    rw [htext, readStatement]
    cases statements with
    | nil =>
      rw [joinedText_nil]
      exact congrArg _ (readBlock_nil after)
    | cons s rest =>
      have hread := readStatements_joinedText hall (fun t ht hreadable => ih t ht hreadable) after
      obtain ⟨c, cs, hcons, hc⟩ := joinedText_eq_cons hall.1 hne after
      rw [hcons] at hread ⊢
      rw [readBlock_of_ne hc, hread]
      rfl
  | expression expr span =>
    obtain hblock | ⟨hends, -⟩ := hafter
    · cases hblock
    · rw [text_expression, readStatement_expr hs hends]
      rfl
  | returning value span =>
    obtain hblock | ⟨hends, -⟩ := hafter
    · cases hblock
    · cases value with
      | none =>
        rw [text_returning_none, readStatement_return hends.word,
          readReturn_of_endsStatement hends]
        rfl
      | some value =>
        have htext : (returning (some value) span).text.toList ++ after =
            "return".toList ++ ' ' :: (value.text.toList ++ after) := by simp
        rw [htext, readStatement_return (endsWord_cons.mpr rfl), readReturn_space hs hends]
        rfl
  | empty =>
    obtain hblock | ⟨hends, -⟩ := hafter
    · cases hblock
    · rw [text_empty]
      exact readStatement_empty hends

/-- Two readable statements with one text are equal up to spans. -/
theorem spanless_eq_of_text_eq {s t : Statement} (hs : s.Readable) (ht : t.Readable)
    (h : s.text = t.text) : s.spanless = t.spanless := by
  have hends (u : Statement) : EndsBefore u [] := .inr ⟨.nil, fun _ => rfl⟩
  have hreads := readStatement_text hs (hends s)
  have hreadt := readStatement_text ht (hends t)
  rw [h, hreadt] at hreads
  exact (Prod.mk.inj (Option.some.inj hreads)).1.symm

/-- A conditional around a block with a call in it, once with spans and once without any. -/
theorem spanless_eq_of_text_eq_call :
    let tree (a b : Span) : Statement :=
      .ifElse ⟨.binary .lt (.var ⟨"x_1", a⟩) (.constant (.integer (-5))), b⟩
        (.block [.empty, .expression (.methodCall (.var ⟨"x_1", b⟩) "get" [.constant .null]) a] b)
        (.returning none a) b
    let s := tree ⟨0, 3⟩ ⟨7, 9⟩
    let t := tree {} {}
    s.Readable ∧ t.Readable ∧ s.text = t.text ∧ s.spanless = t.spanless := by
  intro tree s t
  have hname : IsPlain "x_1" := by decide
  have hmethod : IsPlain "get" := by decide
  have hreadable (a b : Span) : (tree a b).Readable :=
    ⟨⟨rfl, rfl, hname, rfl⟩,
      ⟨⟨trivial, ⟨rfl, rfl, hname, hmethod, rfl, trivial⟩, trivial⟩, by simp⟩, trivial, .inr rfl⟩
  have htext : s.text = t.text := rfl
  exact ⟨hreadable _ _, hreadable _ _, htext,
    spanless_eq_of_text_eq (hreadable _ _) (hreadable _ _) htext⟩

end Statement

end StatementTree
