import StatementTree.Proofs.Text.Labels
import StatementTree.Statement.Text

/-!
# How texts are put together

The arguments of a call and the statements of a block are joined by separators, and a conditional
is one equation when its `else` is taken as a piece that may be absent. A property of texts that
every fixed piece and every literal has, and that joining and bracketing keep, then holds of the
text of every tree whose names have it.
-/

namespace StatementTree

/-- The text of some arguments is their texts with commas between them. -/
theorem Expr.argsText_eq_intercalate (args : List Expr) :
    argsText args = ", ".intercalate (args.map text) := by
  induction args with
  | nil => simp
  | cons arg rest ih =>
    cases rest with
    | nil => simp
    | cons next rest => simp [ih]

namespace Statement

/-- The text of some statements is their texts with semicolons between them. -/
theorem joinedText_eq_intercalate (statements : List Statement) :
    joinedText statements = "; ".intercalate (statements.map text) := by
  induction statements with
  | nil => simp
  | cons s rest ih =>
    cases rest with
    | nil => simp
    | cons next rest => simp [ih]

/-- The text of a block around any of its statements. -/
theorem joinedText_append_cons (earlier : List Statement) (s : Statement)
    (later : List Statement) :
    joinedText (earlier ++ s :: later) =
      String.join (earlier.map (·.text ++ "; ")) ++ s.text ++
        String.join (later.map ("; " ++ ·.text)) := by
  have hbehind (s : Statement) :
      joinedText (s :: later) = s.text ++ String.join (later.map ("; " ++ ·.text)) := by
    induction later generalizing s with
    | nil => simp
    | cons next rest ih => simp [ih, String.append_assoc]
  induction earlier with
  | nil => simp [hbehind]
  | cons first rest ih =>
    -- Something always follows the first statement, so a semicolon stands behind it.
    have hfirst : joinedText (first :: (rest ++ s :: later)) =
        first.text ++ "; " ++ joinedText (rest ++ s :: later) := by
      cases rest <;> exact joinedText_cons_cons ..
    rw [List.cons_append, hfirst, ih]
    simp [String.append_assoc]

/-- What an else branch adds to the text of a conditional, behind a then branch that is a block or
is none. -/
def elseText (afterBlock : Bool) (elseBranch : Statement) : String :=
  if elseBranch.isEmpty then "" else (if afterBlock then " else " else "; else ") ++ elseBranch.text

/-- The text of a conditional, with or without an `else`. -/
theorem text_ifElse_elseText (condition : Condition) (thenBranch elseBranch : Statement)
    (span : Span) :
    (ifElse condition thenBranch elseBranch span).text =
      "if (" ++ condition.text ++ ") " ++ thenBranch.text ++
        elseBranch.elseText thenBranch.isBlock := by
  cases helse : elseBranch.isEmpty with
  | true =>
    obtain rfl := isEmpty_iff.mp helse
    simp [elseText, isEmpty]
  | false =>
    rw [text_ifElse helse]
    simp [elseText, helse, elseSeparator, String.append_assoc]

end Statement

/-- The pieces that texts are put together with, brackets apart. -/
def fixedPieces : List String :=
  ["", " ", ".", "!", ", ", ";", "; ", "if ", " else ", "return"]

/-- Whether a property holds of all that texts are put together of, and is kept when texts are
joined or put in brackets. A bracket on its own need not have the property. -/
structure ClosedUnderWriting (P : String → Prop) : Prop where
  /-- It is kept when texts are joined. -/
  append {s t : String} : P s → P t → P (s ++ t)
  /-- It is kept in parentheses. -/
  parens {s : String} : P s → P ("(" ++ s ++ ")")
  /-- It is kept in braces. -/
  braces {s : String} : P s → P ("\x7b" ++ s ++ "\x7d")
  /-- It holds of all literals. -/
  literal (value : Literal) : P value.text
  /-- It holds of all operators. -/
  symbol (op : BinaryOp) : P op.symbol
  /-- It holds of the other pieces. -/
  fixed : ∀ piece ∈ fixedPieces, P piece

namespace ClosedUnderWriting

variable {P : String → Prop}

/-- What writing keeps also holds of texts joined with a separator. -/
theorem intercalate (hP : ClosedUnderWriting P) {separator : String} (hseparator : P separator)
    {texts : List String} (h : ∀ text ∈ texts, P text) : P (separator.intercalate texts) := by
  induction texts with
  | nil => simpa using hP.fixed "" (by decide)
  | cons text rest ih =>
    have htext := h text (by simp)
    have hrest := ih fun t ht => h t (List.mem_cons_of_mem _ ht)
    cases rest with
    | nil => simpa using htext
    | cons next rest =>
      rw [String.intercalate_cons_cons]
      exact hP.append (hP.append htext hseparator) hrest

/-- What writing keeps holds of some arguments when it holds of each. -/
theorem argsText (hP : ClosedUnderWriting P) {args : List Expr} (h : ∀ arg ∈ args, P arg.text) :
    P (Expr.argsText args) := by
  rw [Expr.argsText_eq_intercalate]
  refine hP.intercalate (hP.fixed ", " (by decide)) fun text hmem => ?_
  obtain ⟨arg, harg, rfl⟩ := List.mem_map.mp hmem
  exact h arg harg

/-- A property that is kept by writing holds of the text of an expression when it holds of the
names in it. -/
theorem exprText (hP : ClosedUnderWriting P) {e : Expr} (h : e.Labelled P P) : P e.text := by
  induction e with
  | var ident =>
    rw [Expr.text_var]
    exact h
  | constant value => simpa using hP.literal value
  | call method args ih =>
    obtain ⟨hmethod, hargs⟩ := h
    have htext := hP.argsText fun arg harg =>
      ih arg harg (Expr.labelledAll_iff.mp hargs arg harg)
    have hcall : (Expr.call method args).text = method ++ ("(" ++ Expr.argsText args ++ ")") := by
      simp [String.append_assoc]
    rw [hcall]
    exact hP.append hmethod (hP.parens htext)
  | methodCall receiver method args ihreceiver ihargs =>
    obtain ⟨hreceiver, hmethod, hargs⟩ := h
    have hdot := hP.fixed "." (by decide)
    have htext := hP.argsText fun arg harg =>
      ihargs arg harg (Expr.labelledAll_iff.mp hargs arg harg)
    have hcall : (Expr.methodCall receiver method args).text =
        receiver.text ++ "." ++ method ++ ("(" ++ Expr.argsText args ++ ")") := by
      simp [String.append_assoc]
    rw [hcall]
    exact hP.append (hP.append (hP.append (ihreceiver hreceiver) hdot) hmethod) (hP.parens htext)
  | binary op left right ihleft ihright =>
    have hspace := hP.fixed " " (by decide)
    rw [Expr.text_binary]
    exact hP.append
      (hP.append (hP.append (hP.append (ihleft h.1) hspace) (hP.symbol op)) hspace) (ihright h.2)
  | not operand ih =>
    rw [Expr.text_not]
    exact hP.append (hP.fixed "!" (by decide)) (ih h)
  | paren inner ih =>
    rw [Expr.text_paren]
    exact hP.parens (ih h)

/-- What writing keeps holds of some statements when it holds of each. -/
theorem joinedText (hP : ClosedUnderWriting P) {statements : List Statement}
    (h : ∀ s ∈ statements, P s.text) : P (Statement.joinedText statements) := by
  rw [Statement.joinedText_eq_intercalate]
  refine hP.intercalate (hP.fixed "; " (by decide)) fun text hmem => ?_
  obtain ⟨s, hs, rfl⟩ := List.mem_map.mp hmem
  exact h s hs

/-- What writing keeps holds of an else branch with the word in front of it. -/
theorem elseText (hP : ClosedUnderWriting P) {s : Statement} (h : P s.text) (afterBlock : Bool) :
    P (s.elseText afterBlock) := by
  have helse := hP.fixed " else " (by decide)
  have hend := hP.fixed ";" (by decide)
  have hended : ("; else " : String) = ";" ++ " else " := by decide
  unfold Statement.elseText
  split
  · exact hP.fixed "" (by decide)
  · split
    · exact hP.append helse h
    · rw [hended]
      exact hP.append (hP.append hend helse) h

/-- A property that is kept by writing holds of the text of a statement when it holds of the names
in it. -/
theorem statementText (hP : ClosedUnderWriting P) {s : Statement} (h : s.Labelled P P) :
    P s.text := by
  have hspace := hP.fixed " " (by decide)
  induction s with
  | ifElse condition thenBranch elseBranch span ihthen ihelse =>
    obtain ⟨hcondition, hthen, helse⟩ := h
    have htext : P condition.text := hP.exprText hcondition
    have hhead : "if (" ++ condition.text ++ ") " =
        "if " ++ ("(" ++ condition.text ++ ")") ++ " " := by simp [← String.toList_inj]
    rw [Statement.text_ifElse_elseText, hhead]
    exact hP.append
      (hP.append (hP.append (hP.append (hP.fixed "if " (by decide)) (hP.parens htext)) hspace)
        (ihthen hthen))
      (hP.elseText (ihelse helse) _)
  | block statements span ih =>
    have htext := hP.joinedText fun s hs => ih s hs (Statement.labelledAll_iff.mp h s hs)
    have hbraces : "\x7b " ++ Statement.joinedText statements ++ " \x7d" =
        "\x7b" ++ (" " ++ Statement.joinedText statements ++ " ") ++ "\x7d" := by
      simp [← String.toList_inj]
    rw [Statement.text_block, hbraces]
    exact hP.braces (hP.append (hP.append hspace htext) hspace)
  | expression expr span => simpa using hP.exprText h
  | returning value span =>
    have hreturn := hP.fixed "return" (by decide)
    cases value with
    | none => simpa using hreturn
    | some value =>
      have hvalue : "return " = "return" ++ " " := by decide
      rw [Statement.text_returning_some, hvalue]
      exact hP.append (hP.append hreturn hspace) (hP.exprText h)
  | empty => simpa using hP.fixed "" (by decide)

end ClosedUnderWriting

end StatementTree
