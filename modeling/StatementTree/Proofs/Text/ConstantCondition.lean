import StatementTree.Expr.Condition
import StatementTree.Proofs.Text.Labels
import StatementTree.Proofs.Text.Numeral

/-!
# Constant conditions can be told by their text

A condition is constant exactly when its text is one of the words `true` and `false` in some
parentheses, as many before it as behind it. Nothing else prints like this as long as the names are
identifiers: every other expression begins with another character, or has a character in it that
such a text has not.
-/

namespace StatementTree

/-- An identifier is a word that does not start with a digit and is not a boolean. -/
structure IsIdentifier (name : String) : Prop where
  /-- It is made of characters of words. -/
  word : isWord name = true
  /-- It has a first character, which is no digit. -/
  start : ∃ c ∈ name.toList.head?, c.isDigit = false
  /-- It is neither of the booleans. -/
  notBoolean : name ≠ "true" ∧ name ≠ "false"

/-- An identifier has a first character, which is one of words. -/
theorem IsIdentifier.eq_cons {name : String} (h : IsIdentifier name) :
    ∃ c cs, name.toList = c :: cs ∧ isWordChar c = true := by
  obtain ⟨c, hc, -⟩ := h.start
  obtain ⟨cs, hname⟩ := List.head?_eq_some_iff.mp hc
  exact ⟨c, cs, hname, isWord_iff.mp h.word c (by simp [hname])⟩

/-- A text in the given number of parentheses. -/
def inParens (n : Nat) (text : String) : String :=
  String.ofList (List.replicate n '(') ++ text ++ String.ofList (List.replicate n ')')

/-- Without parentheses a text stands as it is. -/
@[simp] theorem inParens_zero (text : String) : inParens 0 text = text := by simp [inParens]

/-- One more pair of parentheses goes around the others. -/
theorem inParens_succ (n : Nat) (text : String) :
    inParens (n + 1) text = "(" ++ inParens n text ++ ")" := by
  have hopen : List.replicate (n + 1) '(' = '(' :: List.replicate n '(' := rfl
  have hclose : List.replicate (n + 1) ')' = List.replicate n ')' ++ [')'] :=
    List.replicate_succ'
  rw [← String.toList_inj, inParens, inParens, hopen, hclose]
  simp

namespace Expr

/-- An expression under the given number of parenthesis nodes. -/
def inParens : Nat → Expr → Expr
  | 0, e => e
  | n + 1, e => paren (inParens n e)

/-- An expression in parentheses is written in as many parentheses. -/
theorem text_inParens (n : Nat) (e : Expr) :
    (inParens n e).text = StatementTree.inParens n e.text := by
  induction n with
  | zero => simp [inParens]
  | succ n ih => rw [inParens, text_paren, ih, inParens_succ]

/-- A boolean in parentheses is a constant still. -/
theorem booleanConstant?_inParens (n : Nat) (value : Bool) :
    (inParens n (constant (.boolean value))).booleanConstant? = some value := by
  induction n with
  | zero => rfl
  | succ n ih => exact ih

/-- A boolean constant is a boolean literal under some parenthesis nodes. -/
theorem exists_eq_inParens {e : Expr} {value : Bool} (h : e.booleanConstant? = some value) :
    ∃ n, e = inParens n (constant (.boolean value)) := by
  induction e with
  | constant literal =>
    cases literal with
    | boolean b =>
      obtain rfl : b = value := Option.some.inj h
      exact ⟨0, rfl⟩
    | _ => cases h
  | paren inner ih =>
    obtain ⟨n, rfl⟩ := ih h
    exact ⟨n + 1, rfl⟩
  | _ => cases h

end Expr

/-- The first characters of booleans in parentheses. -/
def constantStarts : List Char := ['(', 't', 'f']

/-- The text of a boolean in parentheses begins with a parenthesis or with the boolean. -/
theorem head?_inParens (n : Nat) (value : Bool) :
    ∃ c ∈ constantStarts, (inParens n (Literal.booleanText value)).toList.head? = some c := by
  cases n with
  | zero => cases value <;> simp [Literal.booleanText, constantStarts]
  | succ n => simp [inParens_succ, constantStarts]

/-- A text that begins with a word is in no parentheses. -/
theorem eq_zero_of_inParens {n : Nat} {text word : String} {c : Char} {cs : List Char}
    (h : text = inParens n word) (htext : text.toList = c :: cs) (hc : isWordChar c = true) :
    n = 0 := by
  cases n with
  | zero => rfl
  | succ n =>
    have hopen : '(' = c := by
      rw [h, inParens_succ, String.toList_append, String.toList_append] at htext
      exact (List.cons.inj htext).1
    rw [← hopen] at hc
    cases hc

/-- Neither boolean is written with a parenthesis. -/
theorem parenthesis_notMem_booleanText (value : Bool) :
    '(' ∉ (Literal.booleanText value).toList := by
  cases value <;> decide

/-- Parentheses and the letters of booleans are all that there is in the text of a boolean in
parentheses. -/
theorem mem_of_eq_inParens {n : Nat} {text : String} {value : Bool}
    (h : text = inParens n (Literal.booleanText value)) {c : Char} (hc : c ∈ text.toList) :
    c ∈ ['(', ')', 't', 'r', 'u', 'e', 'f', 'a', 'l', 's'] := by
  rw [h, inParens, String.toList_append, String.toList_append, List.mem_append, List.mem_append,
    String.toList_ofList, String.toList_ofList] at hc
  rcases hc with (hc | hc) | hc
  · obtain rfl := List.eq_of_mem_replicate hc
    decide
  · revert c
    cases value <;> simp [Literal.booleanText]
  · obtain rfl := List.eq_of_mem_replicate hc
    decide

/-- No numeral begins like a boolean in parentheses. -/
theorem IsNumeral.head?_notMem {cs : List Char} (h : IsNumeral cs) :
    ∀ c ∈ cs.head?, c ∉ constantStarts := by
  intro c hc hstart
  have hnumeral : isNumeralChar c = true := h c (List.mem_of_mem_head? hc)
  have hnone : ∀ d ∈ constantStarts, isNumeralChar d = false := by
    simp [constantStarts, isNumeralChar]
  rw [hnone c hstart] at hnumeral
  cases hnumeral

/-- Only the booleans begin like a boolean in parentheses. -/
theorem Literal.head?_text_notMem {literal : Literal} (h : ∀ value, literal ≠ .boolean value) :
    ∀ c ∈ literal.text.toList.head?, c ∉ constantStarts := by
  cases literal with
  | string s => simp [text, Quoted.encode, constantStarts]
  | integer value => exact (isNumeral_toString value.toInt).head?_notMem
  | float x =>
    rcases x.text_cases with hname | ⟨hnumeral, -⟩
    · have hnames : ∀ name ∈ ["NaN", "inf", "-inf"],
          ∀ c ∈ name.toList.head?, c ∉ constantStarts := by simp [constantStarts]
      exact hnames _ hname
    · exact hnumeral.head?_notMem
  | boolean value => exact absurd rfl (h value)
  | null => simp [text, constantStarts]

namespace Expr

/-- An expression that prints as a boolean in parentheses is one, under as many parenthesis
nodes. -/
theorem eq_inParens_of_text {e : Expr} (h : e.Labelled IsIdentifier IsIdentifier) {n : Nat}
    {value : Bool} (htext : e.text = StatementTree.inParens n (Literal.booleanText value)) :
    e = inParens n (constant (.boolean value)) := by
  induction e generalizing n with
  | var ident =>
    rw [text_var] at htext
    obtain ⟨c, cs, hname, hc⟩ := h.eq_cons
    obtain rfl := eq_zero_of_inParens htext hname hc
    rw [inParens_zero] at htext
    cases value with
    | true => exact absurd htext h.notBoolean.1
    | false => exact absurd htext h.notBoolean.2
  | constant literal =>
    rw [text_constant] at htext
    by_cases hboolean : ∃ b, literal = .boolean b
    · obtain ⟨b, rfl⟩ := hboolean
      have hzero : n = 0 := by
        cases b <;> exact eq_zero_of_inParens htext rfl rfl
      subst hzero
      have hvalue : b = value := by
        revert htext
        cases b <;> cases value <;> simp [Literal.text, Literal.booleanText]
      rw [hvalue, inParens]
    · obtain ⟨c, hstart, hc⟩ := head?_inParens n value
      rw [← htext] at hc
      have hother := Literal.head?_text_notMem (fun b hb => hboolean ⟨b, hb⟩) c hc
      exact absurd hstart hother
  | call method args _ =>
    obtain ⟨c, cs, hmethod, hc⟩ := h.1.eq_cons
    have hstart : (call method args).text.toList =
        c :: (cs ++ ("(" ++ argsText args ++ ")").toList) := by simp [hmethod]
    obtain rfl := eq_zero_of_inParens htext hstart hc
    rw [inParens_zero] at htext
    have hopen := htext ▸ parenthesis_notMem_booleanText value
    exact absurd (by simp) hopen
  | methodCall receiver method args _ _ =>
    exact absurd (mem_of_eq_inParens htext (c := '.') (by simp)) (by decide)
  | binary op left right _ _ =>
    exact absurd (mem_of_eq_inParens htext (c := ' ') (by simp)) (by decide)
  | not operand _ =>
    exact absurd (mem_of_eq_inParens htext (c := '!') (by simp)) (by decide)
  | paren inner ih =>
    cases n with
    | zero =>
      rw [inParens_zero] at htext
      have hopen := htext ▸ parenthesis_notMem_booleanText value
      exact absurd (by simp) hopen
    | succ n =>
      rw [text_paren, inParens_succ] at htext
      have hinner : inner.text = StatementTree.inParens n (Literal.booleanText value) := by
        simpa [← String.toList_inj] using htext
      rw [inParens, ← ih h hinner]

end Expr

/-- A condition is constant exactly when its text is a boolean in some parentheses. Its expression
is then the literal under as many parenthesis nodes. -/
theorem Condition.constantValue?_eq_some_iff_text {c : Condition}
    (h : c.expr.Labelled IsIdentifier IsIdentifier) (value : Bool) :
    (c.constantValue? = some value ↔
        ∃ n, c.text = inParens n (if value then "true" else "false")) ∧
      ∀ n, c.text = inParens n (if value then "true" else "false") →
        c.expr = Expr.inParens n (.constant (.boolean value)) := by
  have hexpr (n : Nat) (htext : c.text = inParens n (Literal.booleanText value)) :
      c.expr = Expr.inParens n (.constant (.boolean value)) := Expr.eq_inParens_of_text h htext
  refine ⟨⟨fun hvalue => ?_, fun ⟨n, htext⟩ => ?_⟩, hexpr⟩
  · obtain ⟨n, hn⟩ := Expr.exists_eq_inParens hvalue
    refine ⟨n, ?_⟩
    rw [Condition.text, hn, Expr.text_inParens, Expr.text_constant]
    rfl
  · rw [constantValue?, hexpr n htext, Expr.booleanConstant?_inParens]

/-- A boolean in two parentheses is constant, and a method called on one in parentheses is no
boolean in parentheses. -/
theorem Condition.constantValue?_eq_some_iff_text_nested :
    let c : Condition := { expr := .paren (.paren (.constant (.boolean false))) }
    let d : Condition := { expr := .methodCall (.paren (.constant (.boolean true))) "m" [] }
    (c.expr.Labelled IsIdentifier IsIdentifier ∧ d.expr.Labelled IsIdentifier IsIdentifier) ∧
      c.text = inParens 2 "false" ∧ c.constantValue? = some false ∧
      d.text = "(true).m()" ∧ ¬ ∃ n, d.text = inParens n "true" := by
  intro c d
  have hmethod : IsIdentifier "m" := ⟨by decide, ⟨'m', by simp, by decide⟩, by decide⟩
  have hc : c.expr.Labelled IsIdentifier IsIdentifier := trivial
  have hd : d.expr.Labelled IsIdentifier IsIdentifier := ⟨trivial, hmethod, trivial⟩
  have htext : c.text = inParens 2 "false" := by decide
  have hconstant := (constantValue?_eq_some_iff_text hc false).1.mpr ⟨2, htext⟩
  refine ⟨⟨hc, hd⟩, htext, hconstant, by decide, fun hparens => ?_⟩
  have hnone := (constantValue?_eq_some_iff_text hd true).1.mpr hparens
  cases hnone

end StatementTree
