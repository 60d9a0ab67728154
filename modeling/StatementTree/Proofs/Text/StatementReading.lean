import StatementTree.Proofs.Text.StatementReader

/-!
# How statements begin and end

The reader decides by the first characters of a statement what it is, and by the characters
behind it where it ends. This is about both: which characters and words statements start with,
what the reader does with them, and what must not follow a statement for it to be read alone.
-/

namespace StatementTree

namespace Reader

/-- There is no word where no character of a word stands. -/
theorem word_of_not_isWordChar {c : Char} (hc : isWordChar c = false) (cs : List Char) :
    (word (c :: cs)).1 = "" := by
  simp [word, hc]

/-- No expression starts with a word that belongs to statements. -/
theorem word_text_notMem {e : Expr} (he : e.Readable) {after : List Char}
    (hafter : EndsWord after) : (word (e.text.toList ++ after)).1 ∉ statementWords := by
  have hnone {c : Char} {cs : List Char} (hc : isWordChar c = false) :
      (word (c :: cs)).1 ∉ statementWords := by
    rw [word_of_not_isWordChar hc]
    decide
  have hword {w : String} {e : Expr} (hw : IsWordOf w e) {rest : List Char}
      (hrest : EndsWord rest) : (word (w.toList ++ rest)).1 ∉ statementWords := by
    rw [word_append hw.word hrest]
    exact hw.free
  induction e generalizing after with
  | var ident =>
    rw [Expr.text_var]
    exact hword (isWordOf_of_isPlain he) hafter
  | constant value =>
    rw [Expr.text_constant]
    rcases literal_cases he with hvalue | ⟨s, rfl⟩ | ⟨n, hn, -⟩
    · exact hword hvalue hafter
    · rw [Literal.text, Quoted.encode, String.toList_ofList]
      exact hnone rfl
    · rw [hn, String.toList_append]
      exact hnone rfl
  | call method args _ =>
    rw [Expr.text_call_append]
    exact hword (isWordOf_of_isPlain he.1) (endsWord_cons.mpr rfl)
  | methodCall receiver method args ih _ =>
    rw [Expr.text_methodCall_append]
    exact ih he.2.2.1 (endsWord_cons.mpr rfl)
  | binary op left right ih _ =>
    rw [Expr.text_binary_append]
    exact ih he.2.2.1 (endsWord_cons.mpr rfl)
  | not operand _ =>
    rw [Expr.text_not, String.toList_append]
    exact hnone rfl
  | paren inner _ =>
    rw [Expr.text_paren, String.toList_append, String.toList_append]
    exact hnone rfl

/-- What follows a statement: nothing, a semicolon, or the end of a block. -/
inductive EndsStatement : List Char → Prop
  /-- Nothing follows. -/
  | nil : EndsStatement []
  /-- Another statement or an `else` follows. -/
  | semicolon (after : List Char) : EndsStatement (';' :: after)
  /-- The block ends. -/
  | brace (after : List Char) : EndsStatement (' ' :: '}' :: after)

/-- A text that does not continue a conditional without an `else`. -/
def NoElse (after : List Char) : Prop := "; else ".toList.isPrefixOf? after = none

/-- Where a statement ends an expression ends, too. -/
theorem EndsStatement.expr {after : List Char} (h : EndsStatement after) : EndsExpr after := by
  cases h with
  | nil => exact endsExpr_nil
  | semicolon after => exact endsExpr_cons (.inr (.inr rfl)) after
  | brace after => exact endsExpr_brace after

/-- Where a statement ends a word ends, too. -/
theorem EndsStatement.word {after : List Char} (h : EndsStatement after) : EndsWord after :=
  h.expr.operand.primary.word

end Reader

open Reader

namespace Statement

/-- A conditional starts with the word `if`, whatever its branches are. -/
theorem text_ifElse_eq (condition : Condition) (thenBranch elseBranch : Statement) (span : Span) :
    ∃ cs, (ifElse condition thenBranch elseBranch span).text.toList = "if".toList ++ ' ' :: cs := by
  cases helse : elseBranch.isEmpty with
  | true =>
    rw [isEmpty_iff.mp helse]
    simp
  | false =>
    rw [text_ifElse helse]
    simp

/-- Texts of statements are not empty, and none of them starts with a space or a semicolon,
except that of the empty statement. -/
theorem Readable.text_eq_cons {s : Statement} (hs : s.Readable) (hempty : s ≠ empty) :
    ∃ c cs, s.text.toList = c :: cs ∧ c ≠ ' ' ∧ c ≠ ';' := by
  have hexpr {e : Expr} (he : e.Readable) :
      ∃ c cs, e.text.toList = c :: cs ∧ c ≠ ' ' ∧ c ≠ ';' := by
    obtain ⟨c, cs, htext, hc, -⟩ := he.text_eq_cons
    exact ⟨c, cs, htext, ne_of_class hc rfl, ne_of_class hc rfl⟩
  cases s with
  | ifElse condition thenBranch elseBranch span =>
    obtain ⟨cs, htext⟩ := text_ifElse_eq condition thenBranch elseBranch span
    exact ⟨'i', 'f' :: ' ' :: cs, htext, by decide, by decide⟩
  | block statements span =>
    exact ⟨'{', ' ' :: ((joinedText statements).toList ++ [' ', '}']), by simp, by decide,
      by decide⟩
  | expression expr span =>
    rw [text_expression]
    exact hexpr hs
  | returning value span =>
    cases value with
    | none => exact ⟨'r', "eturn".toList, by simp, by decide, by decide⟩
    | some value =>
      exact ⟨'r', "eturn ".toList ++ value.text.toList, by simp, by decide, by decide⟩
  | empty => exact absurd rfl hempty

/-- No statement starts with the word `else`. -/
theorem word_text_ne_else {s : Statement} (hs : s.Readable) {after : List Char}
    (hafter : EndsWord after) : (word (s.text.toList ++ after)).1 ≠ "else" := by
  have hword {w : String} {rest : List Char} (hw : isWord w = true)
      (hrest : EndsWord rest) (hne : w ≠ "else") : (word (w.toList ++ rest)).1 ≠ "else" := by
    rw [word_append hw hrest]
    exact hne
  have hnone {c : Char} {cs : List Char} (hc : isWordChar c = false) :
      (word (c :: cs)).1 ≠ "else" := by
    rw [word_of_not_isWordChar hc]
    decide
  cases s with
  | ifElse condition thenBranch elseBranch span =>
    obtain ⟨cs, htext⟩ := text_ifElse_eq condition thenBranch elseBranch span
    rw [htext, List.append_assoc]
    exact hword (by decide) (endsWord_cons.mpr rfl) (by decide)
  | block statements span =>
    rw [text_block, String.toList_append, String.toList_append]
    exact hnone rfl
  | expression expr span =>
    rw [text_expression]
    have hmem := word_text_notMem hs hafter
    rintro helse
    rw [helse] at hmem
    exact hmem (by decide)
  | returning value span =>
    cases value with
    | none =>
      rw [text_returning_none]
      exact hword (by decide) hafter (by decide)
    | some value =>
      have htext : (returning (some value) span).text.toList ++ after =
          "return".toList ++ ' ' :: (value.text.toList ++ after) := by simp
      rw [htext]
      exact hword (by decide) (endsWord_cons.mpr rfl) (by decide)
  | empty =>
    rw [text_empty]
    cases after with
    | nil => decide
    | cons c cs =>
      exact hnone (endsWord_cons.mp hafter)

end Statement

namespace Reader

/-- A text that starts with neither a space, nor a semicolon, nor a brace is read by its word. -/
theorem readStatement_of_ne {c : Char} {cs : List Char} (hspace : c ≠ ' ') (hsemicolon : c ≠ ';')
    (hbrace : c ≠ '{') :
    readStatement (c :: cs) =
      let (w, rest) := word (c :: cs)
      if w = "if" then
        if rest.length < (c :: cs).length then readIf rest else none
      else if w = "return" then readReturn rest
      else (readExpr (c :: cs)).map fun (e, rest) => (.expression e, rest) := by
  rw [readStatement]
  · rfl
  · intro h
    cases h
  · intro rest h
    exact hsemicolon (List.cons.inj h).1
  · intro rest h
    exact hspace (List.cons.inj h).1
  · intro rest h
    exact hbrace (List.cons.inj h).1

/-- A text that starts with a word is read as that word says. -/
theorem readStatement_word {w : String} {rest : List Char}
    (hw : isWord w = true) (hne : w ≠ "") (hrest : EndsWord rest) :
    readStatement (w.toList ++ rest) =
      if w = "if" then readIf rest
      else if w = "return" then readReturn rest
      else (readExpr (w.toList ++ rest)).map fun (e, rest) => (.expression e, rest) := by
  have hword := word_append hw hrest
  obtain ⟨c, cs, hcons⟩ : ∃ c cs, w.toList = c :: cs :=
    List.exists_cons_of_ne_nil fun h => hne (String.toList_eq_nil_iff.mp h)
  have hc : isWordChar c = true := isWord_iff.mp hw c (by simp [hcons])
  rw [hcons, List.cons_append] at hword ⊢
  rw [readStatement_of_ne (ne_of_class hc rfl) (ne_of_class hc rfl) (ne_of_class hc rfl), hword]
  have hshorter : rest.length < (c :: (cs ++ rest)).length := by
    simp only [List.length_cons, List.length_append]
    omega
  simp only [if_pos hshorter]

/-- The word `if` starts a conditional. -/
theorem readStatement_if {rest : List Char} (hrest : EndsWord rest) :
    readStatement ("if".toList ++ rest) = readIf rest :=
  (readStatement_word (by decide) (by decide) hrest).trans (if_pos rfl)

/-- The word `return` starts a return. -/
theorem readStatement_return {rest : List Char} (hrest : EndsWord rest) :
    readStatement ("return".toList ++ rest) = readReturn rest :=
  (readStatement_word (by decide) (by decide) hrest).trans <|
    (if_neg (by decide)).trans (if_pos rfl)

/-- Any other word starts an expression. -/
theorem readStatement_expr {e : Expr} (he : e.Readable) {after : List Char}
    (hafter : EndsStatement after) :
    readStatement (e.text.toList ++ after) = some (.expression e.spanless, after) := by
  have hmem := word_text_notMem he hafter.word
  simp only [statementWords, List.mem_cons, not_or] at hmem
  obtain ⟨hif, -, hreturn, -⟩ := hmem
  have hread := (readsBack he).expr hafter.expr
  obtain ⟨c, cs, htext, hc, -⟩ := he.text_eq_cons
  rw [htext, List.cons_append] at hif hreturn hread ⊢
  rw [readStatement_of_ne (ne_of_class hc rfl) (ne_of_class hc rfl) (ne_of_class hc rfl)]
  simp only [if_neg hif, if_neg hreturn, hread]
  rfl

/-- A return without a value is read up to the end of the statement. -/
theorem readReturn_of_endsStatement {after : List Char} (h : EndsStatement after) :
    readReturn after = some (.returning none, after) := by
  cases h with
  | nil => rfl
  | semicolon after => rfl
  | brace after => rfl

/-- A return is read with its value. -/
theorem readReturn_space {e : Expr} (he : e.Readable) {after : List Char}
    (hafter : EndsStatement after) :
    readReturn (' ' :: (e.text.toList ++ after)) =
      some (.returning (some e.spanless), after) := by
  have hread := (readsBack he).expr hafter.expr
  obtain ⟨c, cs, htext, hc, -⟩ := he.text_eq_cons
  have hne : c ≠ '}' := ne_of_class hc rfl
  rw [htext, List.cons_append] at hread ⊢
  rw [readReturn, hread]
  · rfl
  · intro rest h
    exact hne (List.cons.inj h).1

/-- Nothing is read where a statement ends. -/
theorem readStatement_empty {after : List Char} (h : EndsStatement after) :
    readStatement after = some (.empty, after) := by
  cases h with
  | nil => rw [readStatement]
  | semicolon after => rw [readStatement]
  | brace after => rw [readStatement]

end Reader

end StatementTree
