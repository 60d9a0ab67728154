import StatementTree.Proofs.Text.ExprReader

/-!
# The texts of expressions are read back

Reading the text of an expression gives the expression back without its spans and leaves what
follows, as long as that does not continue the expression. What counts as a continuation depends
on how much of an expression is asked for: an operator continues an expression but not an
operand, and a method call continues an operand but not what a chain starts with. All three are
proved together, by induction on the expression.
-/

namespace StatementTree

open Reader

/-- A string literal is a quote, and behind it the escaped string and the quote that closes it. -/
theorem Literal.text_string_append (s : String) (after : List Char) :
    (string s).text.toList ++ after = '"' :: (Quoted.escape s.toList ++ '"' :: after) := by
  simp [text, Quoted.encode]

namespace Expr

/-- The text of a call is its name, an opening parenthesis, the arguments and a closing one. -/
theorem text_call_append (method : String) (args : List Expr) (after : List Char) :
    (call method args).text.toList ++ after =
      method.toList ++ '(' :: ((argsText args).toList ++ ')' :: after) := by simp

/-- The text of a method call is that of its receiver, a dot and that of the call. -/
theorem text_methodCall_append (receiver : Expr) (method : String) (args : List Expr)
    (after : List Char) :
    (methodCall receiver method args).text.toList ++ after =
      receiver.text.toList ++
        '.' :: (method.toList ++ '(' :: ((argsText args).toList ++ ')' :: after)) := by simp

/-- The text of a binary expression is that of its operands with its symbol and spaces between. -/
theorem text_binary_append (op : BinaryOp) (left right : Expr) (after : List Char) :
    (binary op left right).text.toList ++ after =
      left.text.toList ++ ' ' :: (op.symbol.toList ++ ' ' :: (right.text.toList ++ after)) := by
  simp

end Expr

/-- The characters that a chain of method calls starts with. -/
def startsChain (c : Char) : Bool := isWordChar c || c = '(' || c = '"' || c = '-'

/-- The characters that an expression starts with. -/
def startsExpr (c : Char) : Bool := startsChain c || c = '!'

/-- A chain starts as some expression does. -/
theorem startsExpr_of_startsChain {c : Char} (hc : startsChain c = true) :
    startsExpr c = true := by
  simp [startsExpr, hc]

/-- Texts of expressions are not empty, and only operators and negations start with the sign of
negation. -/
theorem Expr.Readable.text_eq_cons {e : Expr} (he : e.Readable) :
    ∃ c cs, e.text.toList = c :: cs ∧ startsExpr c = true ∧
      (e.isBinary = false → e.isNot = false → startsChain c = true) := by
  induction e with
  | var ident =>
    obtain ⟨c, cs, hname, hword⟩ := (isWordOf_of_isPlain he).eq_cons
    have hc : startsChain c = true := by simp [startsChain, hword]
    exact ⟨c, cs, by simp [hname], startsExpr_of_startsChain hc, fun _ _ => hc⟩
  | constant value =>
    obtain ⟨c, cs, htext, hc⟩ :
        ∃ c cs, value.text.toList = c :: cs ∧ startsChain c = true := by
      rcases literal_cases he with hword | ⟨s, rfl⟩ | ⟨n, hn, -⟩
      · obtain ⟨c, cs, htext, hc⟩ := hword.eq_cons
        exact ⟨c, cs, htext, by simp [startsChain, hc]⟩
      · exact ⟨'"', Quoted.escape s.toList ++ ['"'], by simp [Literal.text, Quoted.encode], rfl⟩
      · exact ⟨'-', n.repr.toList, by simp [hn], rfl⟩
    exact ⟨c, cs, by rw [text_constant, htext], startsExpr_of_startsChain hc, fun _ _ => hc⟩
  | call method args _ =>
    obtain ⟨c, cs, hname, hword, -⟩ := he.1.eq_cons
    have hc : startsChain c = true := by simp [startsChain, hword]
    exact ⟨c, cs ++ '(' :: ((argsText args).toList ++ [')']), by simp [hname],
      startsExpr_of_startsChain hc, fun _ _ => hc⟩
  | methodCall receiver method args ih _ =>
    obtain ⟨hbinary, hnot, hreceiver, -⟩ := he
    obtain ⟨c, cs, htext, -, hc⟩ := ih hreceiver
    have hc := hc hbinary hnot
    exact ⟨c, cs ++ '.' :: (method.toList ++ '(' :: ((argsText args).toList ++ [')'])),
      by simp [htext], startsExpr_of_startsChain hc, fun _ _ => hc⟩
  | binary op left right ih _ =>
    obtain ⟨-, -, hleft, -⟩ := he
    obtain ⟨c, cs, htext, hc, -⟩ := ih hleft
    exact ⟨c, cs ++ ' ' :: (op.symbol.toList ++ ' ' :: right.text.toList), by simp [htext], hc,
      nofun⟩
  | not operand _ => exact ⟨'!', operand.text.toList, by simp, rfl, fun _ => nofun⟩
  | paren inner _ => exact ⟨'(', inner.text.toList ++ [')'], by simp, rfl, fun _ _ => rfl⟩

namespace Reader

/-- What does not start with a mark of negation is read as a chain. -/
theorem readOperand_of_ne {c : Char} {cs : List Char} (hc : c ≠ '!') :
    readOperand (c :: cs) = readChain (c :: cs) := by
  rw [readOperand]
  intro rest h
  exact hc (List.cons.inj h).1

/-- A chain without method calls is what it starts with. -/
theorem readChain_of_readPrimary {e : Expr} {cs after : List Char}
    (h : readPrimary cs = some (e, after)) (hshorter : after.length < cs.length) :
    readChain cs = readCalls e after := by
  rw [readChain, h]
  exact dif_pos hshorter

/-- A chain ends where no further method call follows. -/
theorem readCalls_of_endsOperand {receiver : Expr} {after : List Char} (h : EndsOperand after) :
    readCalls receiver after = some (receiver, after) := by
  rw [readCalls]
  rintro rest rfl
  exact (h '.' rfl).2.2 rfl

/-- A method call is read onto its receiver. -/
theorem readCalls_dot {receiver : Expr} {method : String} {args : List Expr}
    {argsText after : List Char} (hmethod : IsPlain method)
    (hargs : readArgs (argsText ++ ')' :: after) = some (args, after)) :
    readCalls receiver ('.' :: (method.toList ++ '(' :: (argsText ++ ')' :: after))) =
      readCalls (.methodCall receiver method args) after := by
  have hword : word (method.toList ++ '(' :: (argsText ++ ')' :: after)) =
      (method, '(' :: (argsText ++ ')' :: after)) :=
    word_append hmethod.word (endsWord_cons.mpr rfl)
  rw [readCalls, hword]
  simp only [hargs, List.length_append, List.length_cons]
  rw [dif_pos (by omega), dif_pos (by omega)]

/-- A text that starts with a word starts with a call or with what the word stands for. -/
theorem readPrimary_of_isWordChar {c : Char} {cs : List Char} (hc : isWordChar c = true) :
    readPrimary (c :: cs) =
      match word (c :: cs) with
      | (method, '(' :: rest) =>
        if rest.length < (c :: cs).length then
          (readArgs rest).map fun (args, rest) => (.call method args, rest)
        else none
      | (w, rest) => some (wordExpr w, rest) := by
  rw [readPrimary]
  · rfl
  · intro rest h
    exact ne_of_class hc rfl (List.cons.inj h).1
  · intro rest h
    exact ne_of_class hc rfl (List.cons.inj h).1
  · intro rest h
    exact ne_of_class hc rfl (List.cons.inj h).1

/-- A word that nothing continues is read as what it stands for. -/
theorem readPrimary_word {w : String} {e : Expr} {after : List Char} (hw : IsWordOf w e)
    (hafter : EndsPrimary after) : readPrimary (w.toList ++ after) = some (e, after) := by
  have hword := word_append hw.word hafter.word
  obtain ⟨c, cs, hcons, hc⟩ := hw.eq_cons
  rw [hcons, List.cons_append] at hword ⊢
  rw [readPrimary_of_isWordChar hc, hword]
  split
  case h_1 method rest heq =>
    obtain ⟨-, rfl⟩ := Prod.mk.inj heq
    exact absurd rfl (hafter '(' rfl).2
  case h_2 w' rest _ heq =>
    obtain ⟨rfl, rfl⟩ := Prod.mk.inj heq
    rw [hw.meaning]

/-- A call is read with its arguments. -/
theorem readPrimary_call {method : String} {args : List Expr} {argsText after : List Char}
    (hmethod : IsPlain method)
    (hargs : readArgs (argsText ++ ')' :: after) = some (args, after)) :
    readPrimary (method.toList ++ '(' :: (argsText ++ ')' :: after)) =
      some (.call method args, after) := by
  have hword : word (method.toList ++ '(' :: (argsText ++ ')' :: after)) =
      (method, '(' :: (argsText ++ ')' :: after)) :=
    word_append hmethod.word (endsWord_cons.mpr rfl)
  obtain ⟨c, cs, hcons, hc, -⟩ := hmethod.eq_cons
  rw [hcons, List.cons_append] at hword ⊢
  rw [readPrimary_of_isWordChar hc, hword]
  simp only [hargs, List.length_append, List.length_cons]
  rw [if_pos (by omega)]
  rfl

/-- Reading gives an expression back at all three levels. -/
structure ReadsBack (e : Expr) : Prop where
  /-- Every expression is read back where one is expected. -/
  expr : ∀ {after}, EndsExpr after →
    readExpr (e.text.toList ++ after) = some (e.spanless, after)
  /-- What is no binary expression is read back as an operand. -/
  operand : e.isBinary = false → ∀ {after}, EndsOperand after →
    readOperand (e.text.toList ++ after) = some (e.spanless, after)
  /-- What is no negation either is read back up to the method calls on it. -/
  chain : e.isBinary = false → e.isNot = false → ∀ {after}, EndsPrimary after →
    readChain (e.text.toList ++ after) = readCalls e.spanless after

/-- An operand that no operator follows is an expression. -/
theorem readExpr_of_readOperand {e : Expr} {cs after : List Char}
    (h : readOperand cs = some (e, after)) (hafter : operator after = none) :
    readExpr cs = some (e, after) := by
  rw [readExpr, h]
  simp only [hafter]

namespace ReadsBack

variable {e : Expr}

/-- It is enough that an operator with its operands is read back as such. -/
theorem of_expr (hbinary : e.isBinary = true)
    (h : ∀ {after}, EndsExpr after →
      readExpr (e.text.toList ++ after) = some (e.spanless, after)) : ReadsBack e where
  expr := h
  operand hoperand := by
    rw [hbinary] at hoperand
    cases hoperand
  chain hoperand := by
    rw [hbinary] at hoperand
    cases hoperand

/-- It is enough that an operand is read back as such when it is no chain. -/
theorem of_operand (hnot : e.isNot = true)
    (h : ∀ {after}, EndsOperand after →
      readOperand (e.text.toList ++ after) = some (e.spanless, after)) : ReadsBack e where
  expr hafter := readExpr_of_readOperand (h hafter.operand) hafter.operator
  operand _ := h
  chain _ hchain := by
    rw [hnot] at hchain
    cases hchain

/-- It is enough that a chain is read up to its last method call. -/
theorem of_chain (he : e.Readable) (hbinary : e.isBinary = false) (hnot : e.isNot = false)
    (h : ∀ {after}, EndsPrimary after →
      readChain (e.text.toList ++ after) = readCalls e.spanless after) : ReadsBack e := by
  have hoperand {after : List Char} (hafter : EndsOperand after) :
      readOperand (e.text.toList ++ after) = some (e.spanless, after) := by
    obtain ⟨c, cs, htext, -, hc⟩ := he.text_eq_cons
    have hne : c ≠ '!' := ne_of_class (hc hbinary hnot) rfl
    have hchain := h hafter.primary
    rw [htext, List.cons_append] at hchain ⊢
    rw [readOperand_of_ne hne, hchain, readCalls_of_endsOperand hafter]
  exact {
    expr := fun hafter => readExpr_of_readOperand (hoperand hafter.operand) hafter.operator
    operand := fun _ => hoperand
    chain := fun _ _ => h }

/-- It is enough that what a chain starts with is read back. -/
theorem of_primary (he : e.Readable) (hbinary : e.isBinary = false) (hnot : e.isNot = false)
    (h : ∀ {after}, EndsPrimary after →
      readPrimary (e.text.toList ++ after) = some (e.spanless, after)) : ReadsBack e := by
  refine of_chain he hbinary hnot fun hafter => readChain_of_readPrimary (h hafter) ?_
  obtain ⟨c, cs, htext, -⟩ := he.text_eq_cons
  rw [htext]
  simp only [List.length_append, List.length_cons]
  omega

end ReadsBack

/-- What does not start with a closing parenthesis is read as arguments, one by one. -/
theorem readArgs_of_ne {c : Char} {cs : List Char} (hc : c ≠ ')') :
    readArgs (c :: cs) =
      match readExpr (c :: cs) with
      | some (e, ')' :: rest) => some ([e], rest)
      | some (e, ',' :: ' ' :: rest) =>
        if rest.length < (c :: cs).length then
          (readArgs rest).map fun (args, rest) => (e :: args, rest)
        else none
      | _ => none := by
  rw [readArgs]
  · rfl
  · intro rest h
    exact hc (List.cons.inj h).1

/-- Arguments are read back with the parenthesis behind them. -/
theorem readArgs_argsText {args : List Expr} (hargs : ∀ arg ∈ args, arg.Readable ∧ ReadsBack arg)
    (after : List Char) :
    readArgs ((Expr.argsText args).toList ++ ')' :: after) =
      some (Expr.spanlessAll args, after) := by
  induction args with
  | nil =>
    rw [Expr.argsText_nil]
    exact readArgs.eq_1 after
  | cons arg rest ih =>
    obtain ⟨harg, hback⟩ := hargs arg (by simp)
    obtain ⟨c, cs, htext, hstart, -⟩ := harg.text_eq_cons
    have hne : c ≠ ')' := ne_of_class hstart rfl
    cases rest with
    | nil =>
      have hread := hback.expr (endsExpr_cons (.inl rfl) after)
      rw [Expr.argsText_singleton]
      rw [htext, List.cons_append] at hread ⊢
      rw [readArgs_of_ne hne, hread]
      rfl
    | cons next rest =>
      have htail := ih fun e he => hargs e (List.mem_cons_of_mem _ he)
      have hread := hback.expr (endsExpr_cons (.inr (.inl rfl))
        (' ' :: ((Expr.argsText (next :: rest)).toList ++ ')' :: after)))
      have hall : (Expr.argsText (arg :: next :: rest)).toList ++ ')' :: after =
          arg.text.toList ++ ',' :: ' ' ::
            ((Expr.argsText (next :: rest)).toList ++ ')' :: after) := by
        simp
      rw [hall]
      rw [htext, List.cons_append] at hread ⊢
      rw [readArgs_of_ne hne, hread]
      simp only [htail]
      rw [if_pos (by simp; omega)]
      rfl

/-- Every expression that can be read back is. -/
theorem readsBack {e : Expr} (he : e.Readable) : ReadsBack e := by
  induction e with
  | var ident =>
    refine .of_primary he rfl rfl fun hafter => ?_
    rw [Expr.text_var]
    exact readPrimary_word (isWordOf_of_isPlain he) hafter
  | constant value =>
    refine .of_primary he rfl rfl fun {after} hafter => ?_
    rw [Expr.text_constant]
    rcases literal_cases he with hword | ⟨s, rfl⟩ | ⟨n, hn, rfl⟩
    · exact readPrimary_word hword hafter
    · rw [Literal.text_string_append, readPrimary, Quoted.read_escape]
      simp [Expr.spanless]
    · have htext : ("-" ++ n.repr).toList ++ after = '-' :: (n.repr.toList ++ after) := by simp
      rw [hn, htext, readPrimary, word_append (isWordOf_repr n).word hafter.word]
      simp only [number_repr]
      rfl
  | call method args ih =>
    obtain ⟨hmethod, hargs⟩ := he
    have hall := Expr.readableAll_iff.mp hargs
    refine .of_primary ⟨hmethod, hargs⟩ rfl rfl fun {after} _ => ?_
    rw [Expr.text_call_append]
    exact readPrimary_call hmethod
      (readArgs_argsText (fun arg harg => ⟨hall arg harg, ih arg harg (hall arg harg)⟩) after)
  | methodCall receiver method args ihreceiver ihargs =>
    have hreadable := he
    obtain ⟨hbinary, hnot, hreceiver, hmethod, hargs⟩ := he
    have hall := Expr.readableAll_iff.mp hargs
    refine .of_chain hreadable rfl rfl fun {after} _ => ?_
    rw [Expr.text_methodCall_append, (ihreceiver hreceiver).chain hbinary hnot (endsPrimary_dot _)]
    exact readCalls_dot hmethod
      (readArgs_argsText (fun arg harg => ⟨hall arg harg, ihargs arg harg (hall arg harg)⟩) after)
  | binary op left right ihleft ihright =>
    obtain ⟨hbinaryleft, hbinaryright, hleft, hright⟩ := he
    refine .of_expr rfl fun {after} hafter => ?_
    rw [Expr.text_binary_append, readExpr,
      (ihleft hleft).operand hbinaryleft (endsOperand_space _)]
    simp only [operator_symbol, (ihright hright).operand hbinaryright hafter.operand]
    rw [dif_pos (by simp; omega)]
    rfl
  | not operand ih =>
    obtain ⟨hbinary, hoperand⟩ := he
    refine .of_operand rfl fun {after} hafter => ?_
    have htext : (Expr.not operand).text.toList ++ after =
        '!' :: (operand.text.toList ++ after) := by simp
    rw [htext, readOperand, (ih hoperand).operand hbinary hafter]
    rfl
  | paren inner ih =>
    refine .of_primary he rfl rfl fun {after} _ => ?_
    have htext : (Expr.paren inner).text.toList ++ after =
        '(' :: (inner.text.toList ++ ')' :: after) := by simp
    rw [htext, readPrimary, (ih he).expr (endsExpr_cons (.inl rfl) after)]
    rfl

end Reader

end StatementTree
