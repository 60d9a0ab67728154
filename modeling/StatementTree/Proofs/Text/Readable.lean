import StatementTree.Statement.Basic

/-!
# Trees whose text can be read back

Not every tree can be recovered from its text: operators print without parentheses of their own,
an `else` belongs to whichever conditional a reader gives it to, and a name may hold anything at
all. The trees of this module spell with parentheses and blocks whatever the text leaves open,
and their names are words.
-/

namespace StatementTree

/-- The characters of words. -/
def isWordChar (c : Char) : Bool := c.isAlphanum || c = '_'

/-- Whether a text is made of word characters. -/
def isWord (text : String) : Bool := text.toList.all isWordChar

/-- A text is a word when all its characters are characters of words. -/
theorem isWord_iff {text : String} : isWord text = true ↔ ∀ c ∈ text.toList, isWordChar c = true :=
  List.all_eq_true

/-- The words that are no names. -/
def reservedWords : List String := ["if", "else", "return", "true", "false", "null"]

/-- A plain name is a word that does not start with a digit and is not reserved. -/
structure IsPlain (name : String) : Prop where
  /-- It is made of characters of words. -/
  word : isWord name = true
  /-- It has a first character, which is no digit. -/
  start : ∃ c ∈ name.toList.head?, c.isDigit = false
  /-- It is none of the reserved words. -/
  free : name ∉ reservedWords

/-- Whether a name is plain can be computed from its characters. -/
instance (name : String) : Decidable (IsPlain name) :=
  decidable_of_iff (isWord name = true ∧
      (name.toList.head?.any fun c => !c.isDigit) = true ∧ name ∉ reservedWords) <| by
    constructor
    · rintro ⟨hword, hstart, hfree⟩
      have hstart : ∃ c ∈ name.toList.head?, c.isDigit = false := by
        simpa [Option.any_eq_true] using hstart
      exact ⟨hword, hstart, hfree⟩
    · intro h
      have hstart : (name.toList.head?.any fun c => !c.isDigit) = true := by
        simpa [Option.any_eq_true] using h.start
      exact ⟨h.word, hstart, h.free⟩

/-- A plain name starts with a letter or an underscore. -/
theorem IsPlain.eq_cons {name : String} (h : IsPlain name) :
    ∃ c cs, name.toList = c :: cs ∧ isWordChar c = true ∧ c.isDigit = false := by
  obtain ⟨c, hc, hdigit⟩ := h.start
  cases hname : name.toList with
  | nil => simp [hname] at hc
  | cons d cs =>
    have hd : d = c := by simpa [hname] using hc
    subst hd
    exact ⟨d, cs, rfl, isWord_iff.mp h.word d (by simp [hname]), hdigit⟩

/-- Whether a literal is a floating-point number. -/
def Literal.isFloat : Literal → Bool
  | float _ => true
  | _ => false

namespace Expr

/-- Whether an expression is an operator between two operands. -/
def isBinary : Expr → Bool
  | binary .. => true
  | _ => false

/-- Whether an expression is a negation. -/
def isNot : Expr → Bool
  | not _ => true
  | _ => false

mutual

/-- An expression can be read back when its names are plain, no floating-point numbers are in
it, and operators stand in parentheses where they are operands or receivers. -/
def Readable : Expr → Prop
  | var ident => IsPlain ident.name
  | constant value => value.isFloat = false
  | call method args => IsPlain method ∧ ReadableAll args
  | methodCall receiver method args =>
    receiver.isBinary = false ∧ receiver.isNot = false ∧ receiver.Readable ∧ IsPlain method ∧
      ReadableAll args
  | binary _ left right =>
    left.isBinary = false ∧ right.isBinary = false ∧ left.Readable ∧ right.Readable
  | not operand => operand.isBinary = false ∧ operand.Readable
  | paren inner => inner.Readable

/-- Expressions that can all be read back. -/
def ReadableAll : List Expr → Prop
  | [] => True
  | e :: rest => e.Readable ∧ ReadableAll rest

end

/-- Arguments are readable when each of them is. -/
theorem readableAll_iff {args : List Expr} : ReadableAll args ↔ ∀ arg ∈ args, arg.Readable := by
  induction args with
  | nil => simp [ReadableAll]
  | cons e rest ih => simp [ReadableAll, ih]

end Expr

namespace Statement

/-- Whether a statement is a conditional. -/
def isIf : Statement → Bool
  | ifElse .. => true
  | _ => false

mutual

/-- A statement can be read back when its expressions can, no block holds nothing but an empty
statement, and a conditional that has an `else` is not the owner of another one before it. -/
def Readable : Statement → Prop
  | ifElse condition thenBranch elseBranch _ =>
    condition.expr.Readable ∧ thenBranch.Readable ∧ elseBranch.Readable ∧
      (elseBranch = empty ∨ thenBranch.isIf = false)
  | block statements _ => ReadableAll statements ∧ statements ≠ [empty]
  | expression expr _ => expr.Readable
  | returning none _ => True
  | returning (some value) _ => value.Readable
  | empty => True

/-- Statements that can all be read back. -/
def ReadableAll : List Statement → Prop
  | [] => True
  | s :: rest => s.Readable ∧ ReadableAll rest

end

end Statement

end StatementTree
