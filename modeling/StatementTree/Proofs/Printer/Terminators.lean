import Mathlib.Data.List.Forall2
import StatementTree.Proofs.Printer.Lines

/-!
# Where texts and lines end

Semicolons stand between statements and before `else`, and something always follows them. So the
text of a statement ends in a semicolon only when a name in it does, whatever parts of it are empty,
and the semicolon that the printer adds is the only one at the end of a line. The line of a block
ends in its brace.
-/

namespace StatementTree

/-- Whether a text ends in a character. -/
def EndsIn (text : String) (c : Char) : Prop := text.toList.getLast? = some c

/-- The last character of a text can be looked up. -/
instance (text : String) (c : Char) : Decidable (EndsIn text c) :=
  inferInstanceAs (Decidable (text.toList.getLast? = some c))

/-- Whether a text does not end in a semicolon. -/
def Unterminated (text : String) : Prop := ¬ EndsIn text ';'

/-- The last character of a text can be compared with a terminator. -/
instance : DecidablePred Unterminated := fun text => inferInstanceAs (Decidable (¬ EndsIn text ';'))

/-- Whether a text ends in one semicolon and no more. -/
def TerminatedOnce (text : String) : Prop := ∃ body, text = body ++ ";" ∧ Unterminated body

/-- A text ends as its second part does, and as its first part when the second is empty. -/
theorem endsIn_append {s t : String} {c : Char} :
    EndsIn (s ++ t) c ↔ EndsIn t c ∨ t = "" ∧ EndsIn s c := by
  rw [EndsIn, String.toList_append, List.getLast?_append, EndsIn, EndsIn]
  cases hlast : t.toList.getLast? with
  | none =>
    have ht : t = "" := by simpa using hlast
    simp [ht]
  | some d =>
    have ht : t ≠ "" := by
      rintro rfl
      simp at hlast
    simp [ht]

/-- A text ends as its last part does. -/
theorem EndsIn.append {t : String} {c : Char} (h : EndsIn t c) (s : String) : EndsIn (s ++ t) c :=
  endsIn_append.mpr (.inl h)

/-- A text that ends in another character does not end in a terminator. -/
theorem EndsIn.unterminated {text : String} {c : Char} (h : EndsIn text c) (hc : c ≠ ';') :
    Unterminated text := by
  intro hend
  rw [EndsIn, h] at hend
  exact hc (Option.some.inj hend)

/-- An empty end does no harm as long as what stands before it is unterminated, too. -/
theorem Unterminated.append {s t : String} (hs : Unterminated s) (ht : Unterminated t) :
    Unterminated (s ++ t) := by
  intro hend
  rcases endsIn_append.mp hend with h | ⟨-, h⟩
  · exact ht h
  · exact hs h

/-- A numeral does not end in a terminator. -/
theorem IsNumeral.unterminated {text : String} (h : IsNumeral text.toList) : Unterminated text :=
  fun hend => absurd (h _ (List.mem_of_getLast? hend)) (by decide)

/-- The text of a literal is unterminated; that of a string ends in a quote. -/
theorem Literal.unterminated_text (value : Literal) : Unterminated value.text := by
  rcases value.text_cases with ⟨s, hs⟩ | hnumeral | hword
  · have hquote : EndsIn (Quoted.encode s) '"' := by
      rw [EndsIn, Quoted.encode, String.toList_ofList, List.getLast?_concat]
    rw [hs]
    exact hquote.unterminated (by decide)
  · exact hnumeral.unterminated
  · have hwords : ∀ word ∈ words, Unterminated word := by decide
    exact hwords _ hword

/-- The text of an expression is unterminated when all names of variables are. The names of methods
do not matter, since a parenthesis follows them. -/
theorem Expr.unterminated_text {e : Expr} (h : e.Labelled Unterminated fun _ => True) :
    Unterminated e.text := by
  have hparen : EndsIn ")" ')' := by decide
  induction e with
  | var ident =>
    rw [text_var]
    exact h
  | constant value =>
    rw [text_constant]
    exact value.unterminated_text
  | call method args _ =>
    rw [text_call]
    exact (hparen.append _).unterminated (by decide)
  | methodCall receiver method args _ _ =>
    rw [text_methodCall]
    exact (hparen.append _).unterminated (by decide)
  | binary op left right _ ihright =>
    -- Without a right operand the text ends in the space behind the operator.
    have hspace : EndsIn " " ' ' := by decide
    rw [text_binary]
    exact .append ((hspace.append _).unterminated (by decide)) (ihright h.2)
  | not operand ih =>
    rw [text_not]
    exact .append (by decide) (ih h)
  | paren inner _ =>
    rw [text_paren]
    exact (hparen.append _).unterminated (by decide)

namespace Statement

/-- What an else branch adds is unterminated, though it may begin with a semicolon. -/
theorem unterminated_elseText {s : Statement} (h : Unterminated s.text) (afterBlock : Bool) :
    Unterminated (s.elseText afterBlock) := by
  have helse : Unterminated " else " := by decide
  have hended : Unterminated "; else " := by decide
  unfold elseText
  split
  · decide
  · split
    · exact helse.append h
    · exact hended.append h

/-- A block ends in its closing brace. -/
theorem endsIn_text_block (statements : List Statement) (span : Span) :
    EndsIn (block statements span).text '}' := by
  have hbrace : EndsIn " \x7d" '}' := by decide
  rw [text_block]
  exact hbrace.append _

/-- The text of a statement is unterminated when all names of variables in it are. -/
theorem unterminated_text {s : Statement} (h : s.Labelled Unterminated fun _ => True) :
    Unterminated s.text := by
  induction s with
  | ifElse condition thenBranch elseBranch span ihthen ihelse =>
    obtain ⟨-, hthen, helse⟩ := h
    -- With both branches empty the text ends in the space behind the condition.
    have hhead : EndsIn ") " ' ' := by decide
    rw [text_ifElse_elseText]
    exact .append (.append ((hhead.append _).unterminated (by decide)) (ihthen hthen))
      (unterminated_elseText (ihelse helse) _)
  | block statements span _ => exact (endsIn_text_block statements span).unterminated (by decide)
  | expression expr span =>
    rw [text_expression]
    exact Expr.unterminated_text h
  | returning value span =>
    cases value with
    | none =>
      rw [text_returning_none]
      decide
    | some value =>
      rw [text_returning_some]
      exact .append (by decide) (Expr.unterminated_text h)
  | empty =>
    rw [text_empty]
    decide

end Statement

/-- The line of a block ends in its brace, and that of any other statement in one semicolon when no
name of a variable in it ends in one. -/
theorem Printer.lineOf_ends (s : Statement) :
    if s.isBlock then EndsIn (lineOf s) '}'
    else s.Labelled Unterminated (fun _ => True) → TerminatedOnce (lineOf s) := by
  unfold lineOf
  by_cases hblock : s.isBlock = true
  · rw [if_pos hblock, if_pos hblock]
    cases s with
    | block statements span => exact Statement.endsIn_text_block statements span
    | _ => cases hblock
  · rw [if_neg hblock, if_neg hblock]
    exact fun h => ⟨s.text, rfl, Statement.unterminated_text h⟩

/-- The text of a statement does not end in a semicolon when no name of a variable in it does. Of
the lines that are printed, under whichever sizes, that of a block ends in a brace and that of any
other such statement in exactly one semicolon. -/
theorem unterminated_text_and_terminated_lines :
    (∀ s : Statement, s.Labelled Unterminated (fun _ => True) → Unterminated s.text) ∧
    ∀ (config : TextConfig) (statements : List Statement),
      let lines := (Printer.visitor.visitAll statements { config }).lines.toList
      (printWith config statements).1 = "\n".intercalate lines ∧
      List.Forall₂ (fun s line =>
          if s.isBlock then EndsIn line '}'
          else s.Labelled Unterminated (fun _ => True) → TerminatedOnce line)
        statements lines := by
  refine ⟨fun _ => Statement.unterminated_text, fun config statements => ⟨rfl, ?_⟩⟩
  rw [Printer.toList_lines_visitAll_new, List.forall₂_map_right_iff]
  exact List.forall₂_same.mpr fun s _ => Printer.lineOf_ends s

/-- A method may be called `;` and a string may end so, and where the last name is empty, nothing
stands behind the space of `return x + `. A variable whose name ends in a semicolon has it twice on
its line. -/
theorem unterminated_text_and_terminated_lines_nameless :
    let nameless : Statement :=
      .ifElse { expr := .call ";" [.constant (.string ";")] } (.expression (.var { name := "" }))
        (.returning (some (.binary .add (.var { name := "x" }) (.var { name := "" }))))
    let named : Statement := .expression (.var { name := "x;" })
    let lines := (Printer.visitor.visitAll [nameless, .block [named], named] {}).lines.toList
    nameless.Labelled Unterminated (fun _ => True) ∧ Unterminated nameless.text ∧
      lines = ["if (;(\";\")) ; else return x + ;", "\x7b x; \x7d", "x;;"] ∧
      TerminatedOnce "if (;(\";\")) ; else return x + ;" ∧ EndsIn "\x7b x; \x7d" '}' := by
  intro nameless named lines
  have hempty : Unterminated "" := by decide
  have hx : Unterminated "x" := by decide
  have hlabelled : nameless.Labelled Unterminated (fun _ => True) :=
    ⟨⟨trivial, trivial, trivial⟩, hempty, hx, hempty⟩
  obtain ⟨htext, hprinted⟩ := unterminated_text_and_terminated_lines
  have hlines : lines = ["if (;(\";\")) ; else return x + ;", "\x7b x; \x7d", "x;;"] := by decide
  obtain ⟨-, hends⟩ := hprinted {} [nameless, .block [named], named]
  change List.Forall₂ _ _ lines at hends
  rw [hlines] at hends
  obtain ⟨hfirst, hrest⟩ := List.forall₂_cons.mp hends
  exact ⟨hlabelled, htext nameless hlabelled, hlines, hfirst hlabelled,
    (List.forall₂_cons.mp hrest).1⟩

end StatementTree
