import StatementTree.Proofs.Text.Pieces
import StatementTree.Visitor.Basic

/-!
# Skeletons of statements

The skeleton of a statement is what remains of it when its expressions are taken out. It determines
all of the text but the texts of these expressions: a sequence of fixed tokens with gaps between
them. A visitor that enters everything meets the expressions in the order in which their texts stand
between the tokens, and none of them is left out or met twice.
-/

namespace StatementTree

/-- What remains of a statement without its expressions. -/
inductive Skeleton where
  /-- A conditional. -/
  | ifElse (thenBranch elseBranch : Skeleton)
  /-- A block. -/
  | block (statements : List Skeleton)
  /-- An expression statement. -/
  | expression
  /-- A return, with a value or without one. -/
  | returning (hasValue : Bool)
  /-- The empty statement. -/
  | empty

namespace Skeleton

/-- Whether this is the skeleton of a block. -/
def isBlock : Skeleton → Bool
  | block _ => true
  | _ => false

/-- Whether this is the skeleton of the empty statement. -/
def isEmpty : Skeleton → Bool
  | empty => true
  | _ => false

end Skeleton

namespace Statement

mutual

/-- A statement without its expressions. -/
def skeleton : Statement → Skeleton
  | ifElse _ thenBranch elseBranch _ => .ifElse thenBranch.skeleton elseBranch.skeleton
  | block statements _ => .block (skeletonAll statements)
  | expression _ _ => .expression
  | returning value _ => .returning value.isSome
  | empty => .empty

/-- Statements without their expressions. -/
def skeletonAll : List Statement → List Skeleton
  | [] => []
  | s :: rest => s.skeleton :: skeletonAll rest

end

/-- The skeleton of a block, and only that, is a block. -/
theorem isBlock_skeleton (s : Statement) : s.skeleton.isBlock = s.isBlock := by
  cases s <;> rfl

/-- The skeleton of the empty statement, and only that, is empty. -/
theorem isEmpty_skeleton (s : Statement) : s.skeleton.isEmpty = s.isEmpty := by
  cases s <;> rfl

end Statement

/-- The fixed tokens of the texts of statements. -/
inductive Token where
  | openIf | closeIf | semicolon | elseWord | openBlock | separator | closeBlock | returnWord
  | returnValue
  deriving DecidableEq

/-- How a token is written. -/
def Token.text : Token → String
  | openIf => "if ("
  | closeIf => ") "
  | semicolon => ";"
  | elseWord => " else "
  | openBlock => "\x7b "
  | separator => "; "
  | closeBlock => " \x7d"
  | returnWord => "return"
  | returnValue => "return "

/-- A piece of the text of a skeleton: a token, or the slot of an expression. -/
inductive Piece where
  /-- Something that is written as it is. -/
  | token (t : Token)
  /-- The place of an expression. -/
  | slot
  deriving DecidableEq

namespace Piece

/-- Writes pieces, with the given texts in the slots. -/
def fill : List Piece → List String → String
  | [], _ => ""
  | token t :: rest, texts => t.text ++ fill rest texts
  | slot :: rest, text :: texts => text ++ fill rest texts
  | slot :: rest, [] => fill rest []

/-- Pieces that are joined are filled one after the other. -/
theorem fill_append {pieces : List Piece} {texts : List String}
    (h : pieces.count slot = texts.length) (morePieces : List Piece) (moreTexts : List String) :
    fill (pieces ++ morePieces) (texts ++ moreTexts) =
      fill pieces texts ++ fill morePieces moreTexts := by
  induction pieces generalizing texts with
  | nil =>
    obtain rfl : texts = [] := List.length_eq_zero_iff.mp h.symm
    simp [fill]
  | cons piece rest ih =>
    cases piece with
    | token t =>
      have hrest : rest.count slot = texts.length := by simpa using h
      simp [fill, ih hrest, String.append_assoc]
    | slot =>
      cases texts with
      | nil => simp at h
      | cons text texts =>
        have hrest : rest.count slot = texts.length := by simpa using h
        simp [fill, ih hrest, String.append_assoc]

/-- The tokens before, between and behind the slots. -/
def gaps : List Piece → List (List Token)
  | [] => [[]]
  | token t :: rest => (gaps rest).modifyHead (t :: ·)
  | slot :: rest => [] :: gaps rest

/-- There is one gap more than there are slots. -/
theorem length_gaps (pieces : List Piece) : (gaps pieces).length = pieces.count slot + 1 := by
  induction pieces with
  | nil => rfl
  | cons piece rest ih => cases piece <;> simp [gaps, ih]

end Piece

/-- Writes the first gap, the first text, the second gap, and so on up to the last gap. -/
def weave : List (List Token) → List String → String
  | gap :: gaps, text :: texts => String.join (gap.map Token.text) ++ text ++ weave gaps texts
  | gap :: _, [] => String.join (gap.map Token.text)
  | [], _ => ""

/-- A token in front of the first gap is written in front of everything. -/
theorem weave_modifyHead {gaps : List (List Token)} (h : gaps ≠ []) (t : Token)
    (texts : List String) :
    weave (gaps.modifyHead (t :: ·)) texts = t.text ++ weave gaps texts := by
  obtain ⟨gap, rest, rfl⟩ := List.exists_cons_of_ne_nil h
  cases texts <;> simp [weave, String.append_assoc]

/-- Filling the slots of pieces writes their gaps with the texts between them. -/
theorem weave_gaps {pieces : List Piece} {texts : List String}
    (h : pieces.count .slot = texts.length) :
    weave (Piece.gaps pieces) texts = Piece.fill pieces texts := by
  induction pieces generalizing texts with
  | nil =>
    obtain rfl : texts = [] := List.length_eq_zero_iff.mp h.symm
    rfl
  | cons piece rest ih =>
    cases piece with
    | token t =>
      have hrest : rest.count .slot = texts.length := by simpa using h
      have hgaps : Piece.gaps rest ≠ [] := List.ne_nil_of_length_eq_add_one (Piece.length_gaps rest)
      rw [Piece.gaps, weave_modifyHead hgaps, ih hrest, Piece.fill]
    | slot =>
      cases texts with
      | nil => simp at h
      | cons text texts =>
        have hrest : rest.count .slot = texts.length := by simpa using h
        rw [Piece.gaps, weave, ih hrest, Piece.fill]
        simp

namespace Skeleton

/-- What announces an else branch, behind a then branch that is a block or is none. -/
def elsePieces (afterBlock : Bool) : List Piece :=
  if afterBlock then [.token .elseWord] else [.token .semicolon, .token .elseWord]

mutual

/-- The pieces of the text of a skeleton. -/
def pieces : Skeleton → List Piece
  | ifElse thenBranch elseBranch =>
    [.token .openIf, .slot, .token .closeIf] ++
      (thenBranch.pieces ++
        if elseBranch.isEmpty then [] else elsePieces thenBranch.isBlock ++ elseBranch.pieces)
  | block statements => [.token .openBlock] ++ (piecesAll statements ++ [.token .closeBlock])
  | expression => [.slot]
  | returning false => [.token .returnWord]
  | returning true => [.token .returnValue, .slot]
  | empty => []

/-- The pieces of the text of the statements of a block, with a separator between any two. -/
def piecesAll : List Skeleton → List Piece
  | [] => []
  | [s] => s.pieces
  | s :: rest => s.pieces ++ ([.token .separator] ++ piecesAll rest)

end

/-- The tokens of a skeleton, before, between and behind the slots of its expressions. -/
def gaps (k : Skeleton) : List (List Token) := Piece.gaps k.pieces

end Skeleton

namespace Statement

mutual

/-- The texts of the conditions, expressions and returned values of a statement, from left to
right. -/
def contents : Statement → List String
  | ifElse condition thenBranch elseBranch _ =>
    [condition.text] ++ (thenBranch.contents ++ elseBranch.contents)
  | block statements _ => contentsAll statements
  | expression expr _ => [expr.text]
  | returning value _ => (value.map Expr.text).toList
  | empty => []

/-- The same of statements in a row. -/
def contentsAll : List Statement → List String
  | [] => []
  | s :: rest => s.contents ++ contentsAll rest

end

/-- Whether the pieces of a statement have a slot for each of its expressions, and become its text
when the slots are filled. -/
def Filled (s : Statement) : Prop :=
  s.skeleton.pieces.count .slot = s.contents.length ∧
    Piece.fill s.skeleton.pieces s.contents = s.text

/-- The pieces of some statements have as many slots as there are contents, and are filled to their
text. -/
theorem filled_piecesAll {statements : List Statement} (h : ∀ s ∈ statements, s.Filled) :
    (Skeleton.piecesAll (skeletonAll statements)).count .slot = (contentsAll statements).length ∧
      Piece.fill (Skeleton.piecesAll (skeletonAll statements)) (contentsAll statements) =
        joinedText statements := by
  induction statements with
  | nil => exact ⟨rfl, by simp [skeletonAll, Skeleton.piecesAll, Piece.fill]⟩
  | cons s rest ih =>
    obtain ⟨hcount, hfill⟩ := h s (by simp)
    cases rest with
    | nil => simpa [skeletonAll, Skeleton.piecesAll, contentsAll] using And.intro hcount hfill
    | cons next rest =>
      obtain ⟨hcounts, hfills⟩ := ih fun t ht => h t (List.mem_cons_of_mem _ ht)
      have hpieces : Skeleton.piecesAll (skeletonAll (s :: next :: rest)) =
          s.skeleton.pieces ++
            (.token .separator :: Skeleton.piecesAll (skeletonAll (next :: rest))) := rfl
      have hcontents : contentsAll (s :: next :: rest) =
          s.contents ++ contentsAll (next :: rest) := rfl
      rw [hpieces, hcontents]
      refine ⟨by simp [hcount, hcounts], ?_⟩
      rw [Piece.fill_append hcount, hfill, Piece.fill, hfills, joinedText_cons_cons,
        String.append_assoc]
      rfl

/-- An else branch and what announces it become what the branch adds to the text of the
conditional. -/
theorem filled_else {s : Statement} (h : s.Filled) (afterBlock : Bool) :
    let tail := if s.skeleton.isEmpty then [] else
      Skeleton.elsePieces afterBlock ++ s.skeleton.pieces
    tail.count .slot = s.contents.length ∧ Piece.fill tail s.contents = s.elseText afterBlock := by
  obtain ⟨hcount, hfill⟩ := h
  intro tail
  by_cases hempty : s.isEmpty = true
  · obtain rfl := isEmpty_iff.mp hempty
    exact ⟨rfl, rfl⟩
  · have htail : tail = Skeleton.elsePieces afterBlock ++ s.skeleton.pieces :=
      if_neg (by rwa [isEmpty_skeleton])
    have hannounce : (Skeleton.elsePieces afterBlock).count .slot = ([] : List String).length := by
      cases afterBlock <;> rfl
    have htext : Piece.fill (Skeleton.elsePieces afterBlock) [] =
        if afterBlock then " else " else "; else " := by
      cases afterBlock <;> decide
    rw [htail]
    refine ⟨by rw [List.count_append, hannounce, hcount, List.length_nil, Nat.zero_add], ?_⟩
    have hjoined := Piece.fill_append hannounce s.skeleton.pieces s.contents
    rw [List.nil_append] at hjoined
    rw [hjoined, htext, hfill, elseText, if_neg hempty]

/-- The text of a statement is that of its skeleton, filled with the texts of its expressions. -/
theorem filled (s : Statement) : s.Filled := by
  induction s with
  | ifElse condition thenBranch elseBranch span ihthen ihelse =>
    obtain ⟨hthenCount, hthenFill⟩ := ihthen
    obtain ⟨helseCount, helseFill⟩ := filled_else ihelse thenBranch.isBlock
    rw [← isBlock_skeleton] at helseCount helseFill
    have hhead : [Piece.token .openIf, .slot, .token .closeIf].count .slot =
        [condition.text].length := rfl
    have hheadFill : Piece.fill [.token .openIf, .slot, .token .closeIf] [condition.text] =
        "if (" ++ condition.text ++ ") " := by
      simp [Piece.fill, Token.text, String.append_assoc]
    constructor
    · rw [skeleton, Skeleton.pieces, contents, List.count_append, List.count_append, hhead,
        hthenCount, helseCount, List.length_append, List.length_append]
    · rw [skeleton, Skeleton.pieces, contents, Piece.fill_append hhead,
        Piece.fill_append hthenCount, hheadFill, hthenFill, helseFill, isBlock_skeleton,
        text_ifElse_elseText]
      simp only [String.append_assoc]
  | block statements span ih =>
    obtain ⟨hcounts, hfills⟩ := filled_piecesAll ih
    constructor
    · simpa [skeleton, Skeleton.pieces, contents] using hcounts
    · have hclose := Piece.fill_append hcounts [.token .closeBlock] []
      rw [List.append_nil] at hclose
      rw [skeleton, Skeleton.pieces, contents, List.singleton_append, Piece.fill, hclose, hfills,
        text_block]
      simp [Piece.fill, Token.text, String.append_assoc]
  | expression expr span => exact ⟨rfl, by simp [skeleton, Skeleton.pieces, contents, Piece.fill]⟩
  | returning value span =>
    cases value with
    | none => exact ⟨rfl, by simp [skeleton, Skeleton.pieces, contents, Piece.fill, Token.text]⟩
    | some value =>
      exact ⟨rfl, by simp [skeleton, Skeleton.pieces, contents, Piece.fill, Token.text]⟩
  | empty => exact ⟨rfl, by simp [skeleton, Skeleton.pieces, contents, Piece.fill]⟩

end Statement

namespace Visitor

/-- Collects the texts of conditions, expressions and returned values, and goes on inside every
statement. -/
def contents : Visitor (Array String) where
  onExpression node texts := texts.push node.expr.text
  onReturn node texts :=
    match node.value with
    | some value => texts.push value.text
    | none => texts
  onCondition condition texts := texts.push condition.text

/-- A visit of some statements writes their contents down after those that are there. -/
theorem toList_visitAll_contents {statements : List Statement}
    (h : ∀ s ∈ statements, ∀ texts : Array String,
      (contents.visit s texts).toList = texts.toList ++ s.contents) (texts : Array String) :
    (contents.visitAll statements texts).toList =
      texts.toList ++ Statement.contentsAll statements := by
  induction statements generalizing texts with
  | nil => simp [visitAll, Statement.contentsAll]
  | cons s rest ih =>
    have hrest := ih fun t ht => h t (List.mem_cons_of_mem _ ht)
    rw [visitAll, hrest, h s (by simp), Statement.contentsAll, List.append_assoc]

/-- A visit adds the contents of the statement, from left to right, to what was collected
before. -/
theorem toList_visit_contents (s : Statement) (texts : Array String) :
    (contents.visit s texts).toList = texts.toList ++ s.contents := by
  induction s generalizing texts with
  | ifElse condition thenBranch elseBranch span ihthen ihelse =>
    have hvisit : contents.visit (.ifElse condition thenBranch elseBranch span) texts =
        contents.visit elseBranch (contents.visit thenBranch (texts.push condition.text)) := by
      rw [visit]
      rfl
    rw [hvisit, ihelse, ihthen, Array.toList_push, Statement.contents]
    simp only [List.append_assoc]
  | block statements span ih =>
    have hvisit : contents.visit (.block statements span) texts =
        contents.visitAll statements texts := by
      rw [visit]
      rfl
    rw [hvisit, toList_visitAll_contents ih, Statement.contents]
  | expression expr span => simp [visit, contents, Statement.contents]
  | returning value span => cases value <;> simp [visit, contents, Statement.contents]
  | empty => simp [visit, contents, Statement.contents]

end Visitor

/-- The text of a statement is what a visitor collects that enters everything, in the order in which
it is met, each text once and between two gaps. The gaps are tokens that the skeleton of the
statement determines. -/
theorem Statement.text_eq_weave_visited (s : Statement) :
    let visited := (Visitor.contents.visit s #[]).toList
    let gaps := s.skeleton.gaps
    gaps.length = visited.length + 1 ∧ s.text = weave gaps visited := by
  intro visited gaps
  have hvisited : visited = s.contents := Visitor.toList_visit_contents s #[]
  obtain ⟨hcount, hfill⟩ := s.filled
  rw [hvisited]
  exact ⟨(Piece.length_gaps _).trans (congrArg (· + 1) hcount),
    hfill.symm.trans (weave_gaps hcount).symm⟩

end StatementTree
