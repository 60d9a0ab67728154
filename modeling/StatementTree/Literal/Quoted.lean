/-!
# Quoted text

A string literal stands between double quotes. Inside, a quote and a backslash are written
behind a backslash, and a line break as a backslash and an `n`; every other character stands
for itself. The reader takes this back, and it stops at the first bare quote, so what follows a
quoted text never changes how the text is read.
-/

namespace StatementTree

namespace Quoted

/-- What stands for one character between the quotes. -/
def escapeChar (c : Char) : List Char :=
  if c = '"' then ['\\', '"']
  else if c = '\\' then ['\\', '\\']
  else if c = '\n' then ['\\', 'n']
  else [c]

/-- What stands for a text between the quotes. -/
def escape (s : List Char) : List Char := s.flatMap escapeChar

/-- The text between two quotes, escaped. -/
def encode (s : String) : String := String.ofList ('"' :: escape s.toList ++ ['"'])

/-- Reads a quoted text after its opening quote. The answer is the text and what follows the
closing quote; without a closing quote there is none. -/
def read : List Char → Option (List Char × List Char)
  | [] => none
  | '"' :: rest => some ([], rest)
  | '\\' :: '"' :: rest => (read rest).map fun (s, after) => ('"' :: s, after)
  | '\\' :: '\\' :: rest => (read rest).map fun (s, after) => ('\\' :: s, after)
  | '\\' :: 'n' :: rest => (read rest).map fun (s, after) => ('\n' :: s, after)
  | c :: rest => (read rest).map fun (s, after) => (c :: s, after)

/-- Reading passes over one escaped character and gives it back. -/
theorem read_escapeChar (c : Char) (rest : List Char) :
    read (escapeChar c ++ rest) = (read rest).map fun (s, after) => (c :: s, after) := by
  unfold escapeChar
  split
  case isTrue h => subst h; simp [read]
  case isFalse hquote =>
    split
    case isTrue h => subst h; simp [read]
    case isFalse hslash =>
      split
      case isTrue h => subst h; simp [read]
      case isFalse hline =>
        rw [List.singleton_append, read]
        all_goals simp_all

/-- Reading takes escaping back and leaves what follows the closing quote. -/
theorem read_escape (s after : List Char) :
    read (escape s ++ '"' :: after) = some (s, after) := by
  induction s with
  | nil => simp [escape, read]
  | cons c s ih =>
    have hcons : escape (c :: s) ++ '"' :: after =
        escapeChar c ++ (escape s ++ '"' :: after) := by simp [escape]
    rw [hcons, read_escapeChar, ih]
    rfl

end Quoted

end StatementTree
