import StatementTree.Proofs.Wire.Construction

/-!
# Which errors are passed on

A record is refused for the error of its first field that cannot be read, a list for that of its
first element, and a choice for that of its payload. Only a conditional can lack a part, so a
decoder that reads no statements never answers that one is lacking.
-/

namespace StatementTree

/-- A change of the result leaves an error as it is. -/
theorem Except.map_eq_error {ε α β : Type} {x : Except ε α} {f : α → β} {e : ε} :
    x.map f = .error e ↔ x = .error e := by
  cases x <;> simp [Except.map]

namespace Json

variable {τ α : Type} {decode : Json → Except DecodeError α} {j : Json} {e : DecodeError}

/-- A payload is smaller than what it is tagged in. -/
theorem sizeOf_lt_tagged (name : String) (payload : Json) :
    sizeOf payload < sizeOf (tagged name payload) := by
  simp only [tagged, object.sizeOf_spec, List.cons.sizeOf_spec, Prod.mk.sizeOf_spec]
  omega

/-- What may be null is refused as what it is read as otherwise. -/
theorem nullable_eq_error : nullable decode j = .error e ↔ j ≠ null ∧ decode j = .error e := by
  by_cases hnull : j = null
  · subst hnull
    simp [nullable, orNull]
  · rw [nullable_of_ne_null hnull, Except.map_eq_error]
    simp [hnull]

/-- Items are refused for the first that cannot be read. -/
theorem readAll_eq_error {items : List Json} :
    (readAll items fun item _ => decode item) = .error e ↔
      ∃ before item after, items = before ++ item :: after ∧ decode item = .error e ∧
        ∀ other ∈ before, ∃ a, decode other = .ok a := by
  induction items with
  | nil => simp [readAll]
  | cons first rest ih =>
    rw [readAll]
    cases hfirst : decode first with
    | error e' =>
      constructor
      · intro h
        obtain rfl := Except.error.inj h
        exact ⟨[], first, rest, rfl, hfirst, by simp⟩
      · rintro ⟨before, item, after, hitems, he, hbefore⟩
        cases before with
        | nil =>
          obtain ⟨rfl, -⟩ := List.cons.inj hitems
          exact congrArg Except.error (Except.error.inj (hfirst.symm.trans he))
        | cons other before =>
          obtain ⟨rfl, -⟩ := List.cons.inj hitems
          simp [hfirst] at hbefore
    | ok a =>
      change Except.map _ _ = _ ↔ _
      rw [Except.map_eq_error, ih]
      constructor
      · rintro ⟨before, item, after, rfl, he, hbefore⟩
        exact ⟨first :: before, item, after, rfl, he, by simpa [hfirst] using hbefore⟩
      · rintro ⟨before, item, after, hitems, he, hbefore⟩
        cases before with
        | nil =>
          obtain ⟨rfl, -⟩ := List.cons.inj hitems
          simp [hfirst] at he
        | cons other before =>
          obtain ⟨rfl, rfl⟩ := List.cons.inj hitems
          exact ⟨before, item, after, rfl, he, fun i hi => hbefore i (List.mem_cons_of_mem _ hi)⟩

/-- A list is refused for its first element that cannot be read, or because it is no array. -/
theorem listOf_eq_error :
    listOf decode j = .error e ↔
      (∃ before item after, j = array (before ++ item :: after) ∧ decode item = .error e ∧
        ∀ other ∈ before, ∃ a, decode other = .ok a) ∨
      (∀ items, j ≠ array items) ∧ e = .invalidType := by
  cases j with
  | array items => simpa [listOf, asArray] using readAll_eq_error
  | _ => simp [listOf, asArray, eq_comm]

end Json

namespace RecordType

variable {f : RecordField} {l : Layout} {j v : Json} {e : DecodeError}

/-- A record is refused for its first field that cannot be read. -/
theorem decode_eq_of_failsFirst {T : RecordType} (hpayload : T.isPayload = false)
    (hl : j.layout? = some l) (h : RecordField.FailsFirst T.fields f v e l) :
    T.decode j = .error e := by
  cases j with
  | object members =>
    obtain rfl := Option.some.inj hl
    rw [decode_object]
    exact h.conclude_eq T.nodup_keys (T.flaws_reading _)
  | array items =>
    obtain rfl := Option.some.inj hl
    rw [decode_array, hpayload]
    exact h.conclude_eq T.nodup_keys (T.flaws_reading _)
  | _ => simp [Json.layout?] at hl

/-- A record whose decoder answers that a conditional lacks a part has that answer from a field. -/
theorem exists_failsFirst {T : RecordType} {b : BuildError}
    (h : T.decode j = .error (.invalidArgument b)) :
    ∃ l f v, j.layout? = some l ∧ RecordField.FailsFirst T.fields f v (.invalidArgument b) l := by
  cases hl : j.layout? with
  | none => simp [T.decode_eq_invalidType hl] at h
  | some l =>
    cases j with
    | object members =>
      obtain rfl := Option.some.inj hl
      rw [decode_object, RecordField.conclude_named_iff T.nodup_keys (T.flaws_reading _)] at h
      rcases h with ⟨f, hf, v, hv, he, hleast⟩ | ⟨-, before, f, after, -, -, -, he⟩
      · exact ⟨_, f, v, rfl, hf, hv, he, hleast⟩
      · exact DecodeError.noConfusion he
    | array items =>
      obtain rfl := Option.some.inj hl
      rw [decode_array] at h
      split at h
      case isTrue => exact DecodeError.noConfusion (Except.error.inj h)
      case isFalse =>
        rw [RecordField.conclude_positional_iff (T.flaws_reading _)] at h
        rcases h with ⟨before, f, v, after, hzip, he, hbefore⟩ | ⟨-, -, he⟩
        · exact ⟨_, f, v, rfl, before, after, hzip, he, hbefore⟩
        · exact DecodeError.noConfusion he
    | _ => simp [Json.layout?] at hl

/-- A record cannot be refused for a lacking part when none of its fields can. -/
theorem decode_ne_invalidArgument {T : RecordType} {b : BuildError}
    (h : ∀ f ∈ T.fields, ∀ v, sizeOf v < sizeOf j → f.decode v ≠ .error (.invalidArgument b)) :
    T.decode j ≠ .error (.invalidArgument b) := by
  intro hdecode
  obtain ⟨l, f, v, hl, hfirst⟩ := exists_failsFirst hdecode
  exact h f hfirst.mem v (hfirst.sizeOf_lt hl) hfirst.decode_eq

end RecordType

/-- Whether a decoder never answers that a conditional lacks a part. -/
def NeverLacksPart {α : Type} (decode : Json → Except DecodeError α) : Prop :=
  ∀ j b, decode j ≠ .error (.invalidArgument b)

namespace NeverLacksPart

variable {τ α : Type}

/-- No string is refused for a lacking part. -/
theorem asString : NeverLacksPart Json.asString := by
  intro j b
  cases j <;> simp [Json.asString]

/-- No boolean is refused for a lacking part. -/
theorem asBool : NeverLacksPart Json.asBool := by
  intro j b
  cases j <;> simp [Json.asBool]

/-- No offset is refused for a lacking part, not even one that is out of range. -/
theorem asUInt64 : NeverLacksPart Json.asUInt64 := by
  intro j b
  cases j with
  | integer n =>
    rw [Json.asUInt64]
    split <;> simp
  | _ => simp [Json.asUInt64]

/-- No integer is refused for a lacking part, not even one that is out of range. -/
theorem asInt64 : NeverLacksPart Json.asInt64 := by
  intro j b
  cases j with
  | integer n =>
    rw [Json.asInt64]
    split <;> simp
  | _ => simp [Json.asInt64]

/-- No floating-point number is refused for a lacking part. -/
theorem asBinary64 : NeverLacksPart Json.asBinary64 := by
  intro j b
  cases j <;> simp [Json.asBinary64]

/-- A choice is refused for its name or for its payload. -/
theorem variant (names : List (String × τ)) : NeverLacksPart (Json.variant names) := by
  intro j b h
  unfold Json.variant at h
  split at h
  case h_1 => split at h <;> simp at h
  case h_2 => split at h <;> simp at h
  case h_3 => simp at h
  case h_4 => simp at h

/-- A record is never refused for a lacking part when none of its fields is. -/
theorem record {T : RecordType} (h : ∀ f ∈ T.fields, NeverLacksPart f.decode) :
    NeverLacksPart T.decode :=
  fun _ b => RecordType.decode_ne_invalidArgument fun f hf v _ => h f hf v b

/-- Spans hold nothing but offsets. -/
theorem span : NeverLacksPart Span.decode :=
  record (T := .span) (by simp [RecordType.fields, asUInt64])

/-- Names hold nothing but a string and a span. -/
theorem ident : NeverLacksPart Ident.decode :=
  record (T := .ident) (by simp [RecordType.fields, asString, span])

end NeverLacksPart

/-- A list is refused for a lacking part only when an element is. -/
theorem Json.listOf_ne_invalidArgument {α : Type} {decode : Json → Except DecodeError α} {j : Json}
    {b : BuildError}
    (h : ∀ item, sizeOf item < sizeOf j → decode item ≠ .error (.invalidArgument b)) :
    listOf decode j ≠ .error (.invalidArgument b) := by
  intro hread
  rcases listOf_eq_error.mp hread with ⟨before, item, after, rfl, he, -⟩ | ⟨-, he⟩
  · exact h item (sizeOf_lt_array (by simp)) he
  · exact DecodeError.noConfusion he

/-- A choice that is refused for a lacking part has a payload that is. -/
theorem Json.exists_payload {τ α : Type} {names : List (String × τ)}
    {decode : τ → Json → Except DecodeError α} {j : Json} {b : BuildError}
    (h : j.choice names decode = .error (.invalidArgument b)) :
    ∃ name tag payload, j = tagged name payload ∧ names.lookup name = some tag ∧
      decode tag payload = .error (.invalidArgument b) := by
  unfold choice at h
  split at h
  case h_1 e he =>
    obtain rfl := Except.error.inj h
    exact absurd he (NeverLacksPart.variant names j b)
  case h_2 => simp at h
  case h_3 tag payload hvariant =>
    obtain ⟨name, hj, hname⟩ := variant_eq_ok_some.mp hvariant
    exact ⟨name, tag, payload, hj, hname, h⟩

namespace NeverLacksPart

/-- Where no payload is expected one is refused, but not for a lacking part. -/
theorem noPayload {payload : Option Json} {b : BuildError} :
    Json.noPayload payload ≠ .error (.invalidArgument b) := by
  rcases payload with _ | payload
  · simp [Json.noPayload]
  · cases payload <;> simp [Json.noPayload]

/-- Operators are bare names. -/
theorem binaryOp : NeverLacksPart BinaryOp.decode := by
  intro j b h
  unfold BinaryOp.decode Json.bareVariant at h
  cases hvariant : j.variant (BinaryOp.all.map fun op => (op.name, op)) with
  | error e =>
    rw [hvariant] at h
    obtain rfl := Except.error.inj h
    exact variant _ j b hvariant
  | ok found =>
    obtain ⟨op, payload⟩ := found
    rw [hvariant] at h
    change ((Json.noPayload payload).bind fun _ => .ok op) = _ at h
    cases hpayload : Json.noPayload payload with
    | ok _ => simp [hpayload, Except.bind] at h
    | error e =>
      obtain rfl : e = .invalidArgument b := by simpa [hpayload, Except.bind] using h
      exact noPayload hpayload

/-- Literals hold one simple value at most. -/
theorem literal : NeverLacksPart Literal.decode := by
  intro j b h
  unfold Literal.decode at h
  split at h
  case h_1 e he =>
    obtain rfl := Except.error.inj h
    exact variant _ j b he
  case h_2 => exact noPayload (Except.map_eq_error.mp h)
  case h_3 => simp at h
  case h_4 => exact asString _ b (Except.map_eq_error.mp h)
  case h_5 => exact asInt64 _ b (Except.map_eq_error.mp h)
  case h_6 => exact asBinary64 _ b (Except.map_eq_error.mp h)
  case h_7 => exact asBool _ b (Except.map_eq_error.mp h)

/-- The empty statement holds nothing. -/
theorem emptyStatement : NeverLacksPart decodeEmptyStatement := by
  intro j b
  cases j with
  | array items =>
    simp only [decodeEmptyStatement, Json.record, Json.layout?, pure, Layout.conclude]
    split <;> simp
  | _ => simp [decodeEmptyStatement, Json.record, Json.layout?, pure, Layout.conclude]

/-- Expressions hold no conditionals. -/
theorem expr : NeverLacksPart Expr.decode := by
  intro j b
  -- Operands are found under keys and in arrays, so the induction is on the size of the value.
  induction hsize : sizeOf j using Nat.strong_induction_on generalizing j with
  | _ n ih =>
    subst hsize
    intro h
    rw [Expr.decode_eq] at h
    obtain ⟨name, tag, payload, rfl, -, h⟩ := Json.exists_payload h
    have hpayload := Json.sizeOf_lt_tagged name payload
    cases tag with
    | var => exact ident payload b (Except.map_eq_error.mp h)
    | constant => exact literal payload b (Except.map_eq_error.mp h)
    | not => exact ih _ hpayload payload rfl (Except.map_eq_error.mp h)
    | paren => exact ih _ hpayload payload rfl (Except.map_eq_error.mp h)
    | call =>
      rw [← RecordType.decode_callPayload] at h
      refine RecordType.decode_ne_invalidArgument (T := .callPayload) (fun f hf v hv hread => ?_) h
      simp only [RecordType.fields, List.mem_cons, List.not_mem_nil, or_false] at hf
      have hsmaller := Nat.lt_trans hv hpayload
      rcases hf with rfl | rfl | rfl
      · exact ih _ hsmaller v rfl (Json.nullable_eq_error.mp hread).2
      · exact asString v b hread
      · refine Json.listOf_ne_invalidArgument (fun arg harg => ?_) hread
        exact ih _ (Nat.lt_trans harg hsmaller) arg rfl
    | binary =>
      rw [← RecordType.decode_binaryPayload] at h
      refine RecordType.decode_ne_invalidArgument (T := .binaryPayload)
        (fun f hf v hv hread => ?_) h
      simp only [RecordType.fields, List.mem_cons, List.not_mem_nil, or_false] at hf
      have hsmaller := Nat.lt_trans hv hpayload
      rcases hf with rfl | rfl | rfl
      · exact binaryOp v b hread
      · exact ih _ hsmaller v rfl hread
      · exact ih _ hsmaller v rfl hread

/-- Conditions hold an expression and a span. -/
theorem condition : NeverLacksPart Condition.decode :=
  record (T := .condition) (by simp [RecordType.fields, RecordType.spanField, expr, span])

/-- Expression statements hold an expression and a span. -/
theorem expressionStatement : NeverLacksPart ExpressionStatement.decode :=
  record (T := .expressionStatement) (by simp [RecordType.fields, RecordType.spanField, expr, span])

/-- What may be null is refused for a lacking part only when it would be so otherwise. -/
theorem nullable {decode : Json → Except DecodeError α} (h : NeverLacksPart decode) :
    NeverLacksPart (Json.nullable decode) :=
  fun j b hread => h j b (Json.nullable_eq_error.mp hread).2

/-- Returns hold an expression or null, and a span. -/
theorem returnStatement : NeverLacksPart ReturnStatement.decode :=
  record (T := .returnStatement)
    (by simp [RecordType.fields, RecordType.spanField, expr.nullable, span])

end NeverLacksPart

end StatementTree
