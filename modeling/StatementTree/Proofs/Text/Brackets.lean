import StatementTree.Proofs.Printer.Lines

/-!
# Brackets and strings

A scanner reads a text from left to right, keeps the brackets that are open on a stack, and does not
look at brackets inside strings. Texts of trees whose names have neither brackets nor quotes never
stop it, and leave it as it was before them, whatever brackets are open around them and whatever
their string literals spell.
-/

namespace StatementTree

/-- The kinds of brackets. -/
inductive Bracket where
  | paren | brace
  deriving DecidableEq

namespace Bracket

/-- The bracket that a character opens. -/
def opened? : Char → Option Bracket
  | '(' => some paren
  | '{' => some brace
  | _ => none

/-- The bracket that a character closes. -/
def closed? : Char → Option Bracket
  | ')' => some paren
  | '}' => some brace
  | _ => none

end Bracket

/-- Where a scanner is. -/
inductive ScanMode where
  /-- Outside of strings. -/
  | code
  /-- Inside a string. -/
  | quoted
  /-- Inside a string, behind a backslash. -/
  | escaped
  deriving DecidableEq

/-- A scanner of texts. -/
structure Scanner where
  /-- Where it is. -/
  mode : ScanMode := .code
  /-- The brackets that are open, the innermost first. -/
  stack : List Bracket := []
  deriving DecidableEq

namespace Scanner

/-- Outside of strings, a closing bracket must meet its own kind on top of the stack. -/
def stepCode (stack : List Bracket) (c : Char) : Option Scanner :=
  if c = '"' then some { mode := .quoted, stack }
  else
    match Bracket.opened? c, Bracket.closed? c with
    | some bracket, _ => some { stack := bracket :: stack }
    | none, some bracket =>
      match stack with
      | [] => none
      | top :: rest => if top = bracket then some { stack := rest } else none
    | none, none => some { stack }

/-- Reads one character. Inside a string a backslash skips the next character, and the next other
quote closes the string. -/
def step : Scanner → Char → Option Scanner
  | { mode := .code, stack }, c => stepCode stack c
  | { mode := .quoted, stack }, c =>
    if c = '"' then some { stack }
    else if c = '\\' then some { mode := .escaped, stack }
    else some { mode := .quoted, stack }
  | { mode := .escaped, stack }, _ => some { mode := .quoted, stack }

/-- Reads a text from left to right. There is no answer when a closing bracket does not meet its
own kind. -/
def scan (s : Scanner) (cs : List Char) : Option Scanner := cs.foldlM step s

/-- Scanning nothing changes nothing. -/
theorem scan_nil (s : Scanner) : s.scan [] = some s := rfl

/-- Scanning goes on after the first character. -/
theorem scan_cons (s : Scanner) (c : Char) (cs : List Char) :
    s.scan (c :: cs) = (s.step c).bind fun next => next.scan cs :=
  List.foldlM_cons

/-- Scanning two texts in a row is scanning them joined. -/
theorem scan_append (s : Scanner) (cs ds : List Char) :
    s.scan (cs ++ ds) = (s.scan cs).bind fun next => next.scan ds :=
  List.foldlM_append

end Scanner

/-- Whether reading a text outside of strings leaves the scanner as it was, whatever is open. -/
def Neutral (text : String) : Prop :=
  ∀ stack, Scanner.scan { stack } text.toList = some { stack }

/-- The characters that a scanner looks at outside of strings. -/
def delimiters : List Char := ['(', ')', '{', '}', '"']

/-- Whether a text has neither brackets nor quotes in it. -/
def Bare (text : String) : Prop := ∀ c ∈ text.toList, c ∉ delimiters

/-- Bareness is decided by going through the characters of the text, not through all characters. -/
instance : DecidablePred Bare := fun text => List.decidableBAll (· ∉ delimiters) text.toList

/-- A character that delimits nothing leaves the open brackets as they are. -/
theorem Scanner.stepCode_of_notMem {c : Char} (h : c ∉ delimiters) (stack : List Bracket) :
    stepCode stack c = some { stack } := by
  have hopened : Bracket.opened? c = none := by
    unfold Bracket.opened?
    split <;> simp_all [delimiters]
  have hclosed : Bracket.closed? c = none := by
    unfold Bracket.closed?
    split <;> simp_all [delimiters]
  have hquote : c ≠ '"' := by
    rintro rfl
    simp [delimiters] at h
  rw [stepCode, if_neg hquote, hopened, hclosed]

/-- Without brackets and quotes there is nothing to keep track of. -/
theorem Bare.neutral {text : String} (h : Bare text) : Neutral text := by
  intro stack
  have hscan (cs : List Char) (hcs : ∀ c ∈ cs, c ∉ delimiters) :
      Scanner.scan { stack } cs = some { stack } := by
    induction cs with
    | nil => rfl
    | cons c cs ih =>
      have hstep : Scanner.step { stack } c = some { stack } :=
        Scanner.stepCode_of_notMem (hcs c (by simp)) stack
      rw [Scanner.scan_cons, hstep, Option.bind_some]
      exact ih fun d hd => hcs d (List.mem_cons_of_mem _ hd)
  exact hscan text.toList h

namespace Neutral

variable {s t : String}

/-- Neutral texts in a row are neutral. -/
theorem append (hs : Neutral s) (ht : Neutral t) : Neutral (s ++ t) := by
  intro stack
  rw [String.toList_append, Scanner.scan_append, hs stack, Option.bind_some, ht stack]

/-- A bracketed text is read with one more bracket open. -/
theorem parens (h : Neutral s) : Neutral ("(" ++ s ++ ")") := by
  intro stack
  have htext : ("(" ++ s ++ ")").toList = '(' :: (s.toList ++ [')']) := by simp
  have hopen : Scanner.step { stack } '(' = some { stack := .paren :: stack } := rfl
  have hclose : Scanner.scan { stack := .paren :: stack } [')'] = some { stack } := rfl
  rw [htext, Scanner.scan_cons, hopen, Option.bind_some, Scanner.scan_append, h, Option.bind_some,
    hclose]

/-- A neutral text in braces is neutral. -/
theorem braces (h : Neutral s) : Neutral ("\x7b" ++ s ++ "\x7d") := by
  intro stack
  have htext : ("\x7b" ++ s ++ "\x7d").toList = '{' :: (s.toList ++ ['}']) := by simp
  have hopen : Scanner.step { stack } '{' = some { stack := .brace :: stack } := rfl
  have hclose : Scanner.scan { stack := .brace :: stack } ['}'] = some { stack } := rfl
  rw [htext, Scanner.scan_cons, hopen, Option.bind_some, Scanner.scan_append, h, Option.bind_some,
    hclose]

end Neutral

/-- What stands for a character in a string does not end the string. -/
theorem scan_escapeChar (c : Char) (stack : List Bracket) :
    Scanner.scan { mode := .quoted, stack } (Quoted.escapeChar c) =
      some { mode := .quoted, stack } := by
  unfold Quoted.escapeChar
  split
  case isTrue => rfl
  case isFalse hquote =>
    split
    case isTrue => rfl
    case isFalse hslash =>
      split
      case isTrue => rfl
      case isFalse => simp [Scanner.scan_cons, Scanner.scan_nil, Scanner.step, hquote, hslash]

/-- An escaped text leaves the scanner inside the quotation marks. -/
theorem scan_escape (cs : List Char) (stack : List Bracket) :
    Scanner.scan { mode := .quoted, stack } (Quoted.escape cs) =
      some { mode := .quoted, stack } := by
  induction cs with
  | nil => rfl
  | cons c cs ih =>
    have hcons : Quoted.escape (c :: cs) = Quoted.escapeChar c ++ Quoted.escape cs := rfl
    rw [hcons, Scanner.scan_append, scan_escapeChar, Option.bind_some, ih]

/-- A quoted text is closed by its own last character, whatever it quotes. -/
theorem neutral_encode (s : String) : Neutral (Quoted.encode s) := by
  intro stack
  have hopen : Scanner.step { stack } '"' = some { mode := .quoted, stack } := rfl
  have hclose : Scanner.scan { mode := .quoted, stack } ['"'] = some { stack } := rfl
  rw [Quoted.encode, String.toList_ofList, List.cons_append, Scanner.scan_cons, hopen,
    Option.bind_some, Scanner.scan_append, scan_escape, Option.bind_some, hclose]

/-- A numeral has no delimiters. -/
theorem IsNumeral.bare {text : String} (h : IsNumeral text.toList) : Bare text := by
  intro c hc hmem
  have hnone : delimiters.all (fun c => !isNumeralChar c) = true := by decide
  have hdelimiter := List.all_eq_true.mp hnone c hmem
  simp [h c hc] at hdelimiter

/-- The text of a literal is neutral. Only strings have brackets or quotes in them. -/
theorem Literal.neutral_text (value : Literal) : Neutral value.text := by
  rcases value.text_cases with ⟨s, hs⟩ | hnumeral | hword
  · rw [hs]
    exact neutral_encode s
  · exact hnumeral.bare.neutral
  · have hwords : ∀ word ∈ words, Bare word := by decide
    exact (hwords _ hword).neutral

/-- Being neutral is kept by writing. -/
theorem closedUnderWriting_neutral : ClosedUnderWriting Neutral where
  append := Neutral.append
  parens := Neutral.parens
  braces := Neutral.braces
  literal := Literal.neutral_text
  symbol op := by
    have hbare : Bare op.symbol := by cases op <;> decide
    exact hbare.neutral
  fixed piece hpiece := by
    have hbare : ∀ piece ∈ fixedPieces, Bare piece := by decide
    exact (hbare piece hpiece).neutral

/-- The text of a statement is neutral when the names in it have neither brackets nor quotes. -/
theorem Statement.neutral_text {s : Statement} (h : s.Labelled Bare Bare) : Neutral s.text :=
  closedUnderWriting_neutral.statementText (h.mono (fun _ => Bare.neutral) fun _ => Bare.neutral)

/-- A printed line is neutral when no label in the statement has delimiters. -/
theorem Printer.neutral_lineOf {s : Statement} (h : s.Labelled Bare Bare) :
    Neutral (lineOf s) := by
  unfold lineOf
  split
  · exact s.neutral_text h
  · exact (s.neutral_text h).append (closedUnderWriting_neutral.fixed ";" (by decide))

/-- What is printed is neutral when the names in all statements have neither brackets nor
quotes. -/
theorem neutral_print {statements : List Statement}
    (h : ∀ s ∈ statements, s.Labelled Bare Bare) : Neutral (print statements).1 := by
  have hbreak : Bare "\n" := by decide
  rw [print, printWith_eq]
  refine closedUnderWriting_neutral.intercalate hbreak.neutral fun text hmem => ?_
  obtain ⟨s, hs, rfl⟩ := List.mem_map.mp hmem
  exact Printer.neutral_lineOf (h s hs)

/-- The scanner reads the text of a statement, and what is printed for a list of statements, to the
end: every closing bracket meets its own kind, all brackets are closed and no string is left open.
It suffices that there are no brackets and quotes in names; string literals may have them. -/
theorem scan_text_and_print :
    (∀ s : Statement, s.Labelled Bare Bare →
      Scanner.scan {} s.text.toList = some { mode := .code, stack := [] }) ∧
    ∀ statements : List Statement, (∀ s ∈ statements, s.Labelled Bare Bare) →
      Scanner.scan {} (print statements).1.toList = some { mode := .code, stack := [] } :=
  ⟨fun _ h => Statement.neutral_text h [], fun _ h => neutral_print h []⟩

/-- A literal may quote brackets and quotes and end in a backslash. A name may not close a bracket
that it did not open. -/
theorem scan_text_and_print_quoted :
    let literal : Statement :=
      .expression (.call "log" [.constant (.string "\x7d\")\n("), .constant (.string "\\")])
    let program : List Statement :=
      [.ifElse { expr := .not (.paren (.var { name := "x" })) } (.block [literal]) literal]
    let unnamed : Statement := .expression (.var { name := ")" })
    (literal.Labelled Bare Bare ∧ ∀ s ∈ program, s.Labelled Bare Bare) ∧
      Scanner.scan {} literal.text.toList = some { mode := .code, stack := [] } ∧
      Scanner.scan {} (print program).1.toList = some { mode := .code, stack := [] } ∧
      Scanner.scan {} unnamed.text.toList = none := by
  intro literal program unnamed
  have hlog : Bare "log" := by decide
  have hname : Bare "x" := by decide
  have hliteral : literal.Labelled Bare Bare := ⟨hlog, trivial, trivial, trivial⟩
  have hlabelled : ∀ s ∈ program, s.Labelled Bare Bare :=
    Statement.labelledAll_iff.mp ⟨⟨hname, ⟨hliteral, trivial⟩, hliteral⟩, trivial⟩
  exact ⟨⟨hliteral, hlabelled⟩, scan_text_and_print.1 literal hliteral,
    scan_text_and_print.2 program hlabelled, by decide⟩

end StatementTree
