import StatementTree.Proofs.Wire.Acceptance
import StatementTree.Proofs.Wire.Conversion
import StatementTree.Proofs.Wire.RoundTrip

/-!
# Decoding accepts exactly the spellings

Whatever has a spelling holds only finite numbers, since JSON has no other ones and a whole
number converts to a finite one. Together with what the single decoders accept this settles the
whole format: a decoder answers a value exactly for the spellings of that value, and only values
without infinities and NaNs have any.
-/

namespace StatementTree

namespace Json

/-- A field of a record that is spelled has a spelling itself, or it is left out. -/
theorem SpellsObject.field {fields : List FieldSpelling} {j : Json} (h : SpellsObject fields j)
    {f : FieldSpelling} (hf : f ∈ fields) : (∃ i, f.Spells i) ∨ f.Omissible := by
  cases j with
  | object members =>
    have hspelled := h f hf
    unfold FieldSpelling.SpelledBy at hspelled
    split at hspelled
    case h_1 i _ => exact .inl ⟨i, hspelled⟩
    case h_2 => exact .inr hspelled
  | _ => exact h.elim

/-- A field of an array that is spelled has a spelling itself, or it is left out. -/
theorem SpellsElements.field {fields : List FieldSpelling} {items : List Json}
    (h : SpellsElements fields items) {f : FieldSpelling} (hf : f ∈ fields) :
    (∃ i, f.Spells i) ∨ f.Omissible := by
  induction fields generalizing items with
  | nil => simp at hf
  | cons first rest ih =>
    cases items with
    | nil =>
      rcases List.mem_cons.mp hf with rfl | hf
      · exact .inr (f.omissible_of_truncatable h.1)
      · exact ih h.2 hf
    | cons item items =>
      rcases List.mem_cons.mp hf with rfl | hf
      · exact .inl ⟨item, h.1⟩
      · exact ih h.2 hf

/-- The same for records that may be objects or arrays. -/
theorem SpellsRecord.field {fields : List FieldSpelling} {j : Json} (h : SpellsRecord fields j)
    {f : FieldSpelling} (hf : f ∈ fields) : (∃ i, f.Spells i) ∨ f.Omissible := by
  cases j with
  | array items => exact SpellsElements.field h hf
  | object members =>
    have hobject : SpellsObject fields (object members) := h
    exact hobject.field hf
  | _ => exact absurd h (by simp [SpellsRecord, SpellsObject])

/-- A field without a default always has a spelling. -/
theorem SpellsRecord.required {fields : List FieldSpelling} {j : Json} {key : String}
    {spells : Json → Prop} (h : SpellsRecord fields j)
    (hf : FieldSpelling.required key spells ∈ fields) : ∃ i, spells i := by
  rcases h.field hf with hi | hi
  · exact hi
  · exact hi.elim

/-- The same for records that are always objects. -/
theorem SpellsObject.required {fields : List FieldSpelling} {j : Json} {key : String}
    {spells : Json → Prop} (h : SpellsObject fields j)
    (hf : FieldSpelling.required key spells ∈ fields) : ∃ i, spells i := by
  rcases h.field hf with hi | hi
  · exact hi
  · exact hi.elim

end Json

/-- Only finite numbers have spellings. -/
theorem Binary64.Spells.isFinite {x : Binary64} {j : Json} (h : x.Spells j) :
    x.isFinite = true := by
  rcases h with ⟨hfinite, -⟩ | ⟨n, -, rfl⟩
  · exact hfinite
  · exact Binary64.isFinite_ofInt n

/-- The number in a spelled literal is finite. -/
theorem Literal.Spells.allFinite {value : Literal} {j : Json} (h : value.Spells j) :
    AllFinite value.floats := by
  cases value with
  | float x =>
    obtain ⟨p, -, hp⟩ := h
    exact (allFinite_singleton x).mpr hp.isFinite
  | _ => exact allFinite_nil

namespace Expr

/-- A list of expressions that is spelled holds only finite numbers when its elements do. -/
theorem SpellsAll.allFinite {args : List Expr} {items : List Json} (h : SpellsAll args items)
    (hargs : ∀ arg ∈ args, ∀ {j}, arg.Spells j → AllFinite arg.floats) :
    AllFinite (floatsAll args) := by
  induction args generalizing items with
  | nil => exact allFinite_nil
  | cons e rest ih =>
    cases items with
    | nil => exact h.elim
    | cons item items =>
      rw [floatsAll, allFinite_append]
      exact ⟨hargs e (by simp) h.1, ih h.2 fun arg harg => hargs arg (List.mem_cons_of_mem _ harg)⟩

/-- An expression that has a spelling holds only finite numbers. -/
theorem Spells.allFinite {e : Expr} {j : Json} (h : e.Spells j) : AllFinite e.floats := by
  induction e generalizing j with
  | var ident => exact allFinite_nil
  | constant value =>
    obtain ⟨p, -, hp⟩ := h
    exact hp.allFinite
  | call method args ih =>
    obtain ⟨p, -, hp⟩ := h
    obtain ⟨_, items, -, hitems⟩ := hp.required (.tail _ (.tail _ (.head _)))
    exact hitems.allFinite ih
  | methodCall receiver method args ihreceiver ihargs =>
    obtain ⟨p, -, hp⟩ := h
    obtain ⟨_, hreceiver⟩ := hp.required (.head _)
    obtain ⟨_, items, -, hitems⟩ := hp.required (.tail _ (.tail _ (.head _)))
    rw [floats, allFinite_append]
    exact ⟨ihreceiver hreceiver, hitems.allFinite ihargs⟩
  | binary op left right ihleft ihright =>
    obtain ⟨p, -, hp⟩ := h
    obtain ⟨_, hleft⟩ := hp.required (.tail _ (.head _))
    obtain ⟨_, hright⟩ := hp.required (.tail _ (.tail _ (.head _)))
    rw [floats, allFinite_append]
    exact ⟨ihleft hleft, ihright hright⟩
  | not operand ih =>
    obtain ⟨p, -, hp⟩ := h
    exact ih hp
  | paren inner ih =>
    obtain ⟨p, -, hp⟩ := h
    exact ih hp

end Expr

/-- The numbers in a spelled condition are finite. -/
theorem Condition.Spells.allFinite {c : Condition} {j : Json} (h : c.Spells j) :
    AllFinite c.floats := by
  obtain ⟨_, hexpr⟩ := Json.SpellsRecord.required h (.head _)
  exact hexpr.allFinite

/-- The numbers in a spelled expression statement are finite. -/
theorem ExpressionStatement.Spells.allFinite {node : ExpressionStatement} {j : Json}
    (h : node.Spells j) : AllFinite node.toStatement.floats := by
  obtain ⟨_, hexpr⟩ := Json.SpellsRecord.required h (.head _)
  exact hexpr.allFinite

/-- The numbers in a spelled return are finite. -/
theorem ReturnStatement.Spells.allFinite {node : ReturnStatement} {j : Json}
    (h : node.Spells j) : AllFinite node.toStatement.floats := by
  obtain ⟨value, span⟩ := node
  cases value with
  | none => exact allFinite_nil
  | some value =>
    obtain ⟨_, hvalue⟩ := Json.SpellsRecord.required h (.head _)
    exact hvalue.allFinite

/-- A list of statements that is spelled holds only finite numbers when its elements do. -/
theorem Statement.SpellsAll.allFinite {statements : List Statement} {items : List Json}
    (h : SpellsAll statements items)
    (hall : ∀ s ∈ statements, ∀ {j}, s.Spells j → AllFinite s.floats) :
    AllFinite (floatsAll statements) := by
  induction statements generalizing items with
  | nil => exact allFinite_nil
  | cons s rest ih =>
    cases items with
    | nil => exact h.elim
    | cons item items =>
      rw [floatsAll, allFinite_append]
      exact ⟨hall s (by simp) h.1, ih h.2 fun t ht => hall t (List.mem_cons_of_mem _ ht)⟩

/-- A conditional holds only finite numbers when its branches do: an else branch that is left
out is empty. -/
theorem IfStatement.allFinite_of_spells {node : IfStatement} {j : Json} (h : node.Spells j)
    (hthen : ∀ {j}, node.thenBranch.Spells j → AllFinite node.thenBranch.floats)
    (helse : ∀ {j}, node.elseBranch.Spells j → AllFinite node.elseBranch.floats) :
    AllFinite node.toStatement.floats := by
  have hempty (hnone : node.elseBranch = .empty) : AllFinite node.elseBranch.floats := by
    rw [hnone]
    exact allFinite_nil
  obtain ⟨_, hcondition⟩ := Json.SpellsRecord.required h (.head _)
  obtain ⟨_, hbranch⟩ := Json.SpellsRecord.required h (.tail _ (.head _))
  have hlast := Json.SpellsRecord.field h (.tail _ (.tail _ (.head _)))
  rw [toStatement, Statement.floats, allFinite_append, allFinite_append]
  refine ⟨⟨hcondition.allFinite, hthen hbranch⟩, ?_⟩
  rcases hlast with ⟨_, hspelled | ⟨hnone, -⟩⟩ | hnone
  · exact helse hspelled
  · exact hempty hnone
  · exact hempty hnone

/-- A block holds only finite numbers when its statements do. -/
theorem BlockStatement.allFinite_of_spells {node : BlockStatement} {j : Json} (h : node.Spells j)
    (hall : ∀ s ∈ node.statements, ∀ {j}, s.Spells j → AllFinite s.floats) :
    AllFinite node.toStatement.floats := by
  rcases Json.SpellsRecord.field h (.head _) with ⟨_, items, -, hitems⟩ | hnone
  · exact hitems.allFinite hall
  · have hnone : node.statements = [] := hnone
    rw [toStatement, hnone]
    exact allFinite_nil

/-- A statement that has a spelling holds only finite numbers. -/
theorem Statement.Spells.allFinite {s : Statement} {j : Json} (h : s.Spells j) :
    AllFinite s.floats := by
  induction s generalizing j with
  | ifElse condition thenBranch elseBranch span ihthen ihelse =>
    obtain ⟨p, -, hp⟩ := h
    let node : IfStatement := ⟨condition, thenBranch, elseBranch, span⟩
    exact IfStatement.allFinite_of_spells (show node.Spells p from hp) ihthen ihelse
  | block statements span ih =>
    obtain ⟨p, -, hp⟩ := h
    let node : BlockStatement := ⟨statements, span⟩
    exact BlockStatement.allFinite_of_spells (show node.Spells p from hp) ih
  | expression expr span =>
    obtain ⟨p, -, hp⟩ := h
    exact hp.allFinite
  | returning value span =>
    obtain ⟨p, -, hp⟩ := h
    exact hp.allFinite
  | empty => exact allFinite_nil

namespace WireType

/-- A decoder answers a value exactly for the spellings of that value. -/
theorem decode_eq_ok (T : WireType) (j : Json) (v : T.Value) :
    T.decode j = .ok v ↔ T.Spells v j := by
  cases T with
  | span => exact Span.decode_eq_ok
  | ident => exact Ident.decode_eq_ok
  | literal => exact Literal.decode_eq_ok
  | binaryOp => exact BinaryOp.decode_eq_ok
  | expr => exact Expr.decode_eq_ok
  | condition => exact Condition.decode_eq_ok
  | emptyStatement => exact decodeEmptyStatement_eq_ok
  | expressionStatement => exact ExpressionStatement.decode_eq_ok
  | returnStatement => exact ReturnStatement.decode_eq_ok
  | blockStatement => exact BlockStatement.decode_eq_ok
  | ifStatement => exact IfStatement.decode_eq_ok
  | statement => exact Statement.decode_eq_ok
  | severity => exact Severity.decode_eq_ok
  | diagnostic => exact Diagnostic.decode_eq_ok

/-- Only values whose floating-point numbers are all finite have spellings. -/
theorem allFinite_of_spells (T : WireType) {v : T.Value} {j : Json} (h : T.Spells v j) :
    AllFinite (T.floats v) := by
  cases T with
  | literal => exact Literal.Spells.allFinite h
  | expr => exact Expr.Spells.allFinite h
  | condition => exact Condition.Spells.allFinite h
  | expressionStatement => exact ExpressionStatement.Spells.allFinite h
  | returnStatement => exact ReturnStatement.Spells.allFinite h
  | blockStatement =>
    exact BlockStatement.allFinite_of_spells h fun _ _ => Statement.Spells.allFinite
  | ifStatement =>
    exact IfStatement.allFinite_of_spells h Statement.Spells.allFinite Statement.Spells.allFinite
  | statement => exact Statement.Spells.allFinite h
  | span | ident | binaryOp | emptyStatement | severity | diagnostic => exact allFinite_nil

/-- Decoding answers a value exactly for the spellings of that value, and then all of its
floating-point numbers are finite. The encoding is itself a spelling unless a number is not. -/
theorem decode_eq_ok_value_iff (T : WireType) (v : T.Value) :
    (∀ j, T.decode j = .ok v ↔ AllFinite (T.floats v) ∧ T.Spells v j) ∧
      (T.Spells v (T.encode v) ↔ AllFinite (T.floats v)) := by
  refine ⟨fun j => ?_, T.allFinite_of_spells, fun hfinite => ?_⟩
  · rw [decode_eq_ok]
    constructor
    · intro hspells
      exact ⟨T.allFinite_of_spells hspells, hspells⟩
    · rintro ⟨-, hspells⟩
      exact hspells
  · rw [← decode_eq_ok, decode_encode]
    exact if_pos hfinite

end WireType

end StatementTree
