import Mathlib.Data.List.Nodup
import StatementTree.Proofs.Wire.Matching

/-!
# What the decoders of simple values accept

A decoder answers a value exactly for the spellings of that value. Here this is shown for
everything that is not a tree: numbers and texts, spans, names, literals and operators. Records
are compared one field at a time, and choices one alternative at a time.
-/

namespace StatementTree

namespace Reading

variable {α β γ δ ε : Type}

/-- Two joined fields make a value of two parts exactly when they have these values. -/
theorem pair_eq_value {f : α → β → γ} (hf : Function.Injective2 f) {x : Reading α}
    {y : Reading β} {a : α} {b : β} :
    f <$> x <*> y = value (f a b) ↔ x = value a ∧ y = value b := by
  simp only [seq_eq_value, map_eq_value]
  constructor
  · rintro ⟨_, b', ⟨a', hx, rfl⟩, hy, heq⟩
    obtain ⟨rfl, rfl⟩ := hf heq
    exact ⟨hx, hy⟩
  · rintro ⟨hx, hy⟩
    exact ⟨_, b, ⟨a, hx, rfl⟩, hy, rfl⟩

/-- Three joined fields make a value of three parts exactly when they have these values. -/
theorem triple_eq_value {f : α → β → γ → δ} {a : α} {b : β} {c : γ}
    (hf : ∀ a' b' c', f a' b' c' = f a b c → a' = a ∧ b' = b ∧ c' = c) {x : Reading α}
    {y : Reading β} {z : Reading γ} :
    f <$> x <*> y <*> z = value (f a b c) ↔ x = value a ∧ y = value b ∧ z = value c := by
  simp only [seq_eq_value, map_eq_value]
  constructor
  · rintro ⟨_, c', ⟨_, b', ⟨a', hx, rfl⟩, hy, rfl⟩, hz, heq⟩
    obtain ⟨rfl, rfl, rfl⟩ := hf a' b' c' heq
    exact ⟨hx, hy, hz⟩
  · rintro ⟨hx, hy, hz⟩
    exact ⟨_, c, ⟨_, b, ⟨a, hx, rfl⟩, hy, rfl⟩, hz, rfl⟩

/-- Four joined fields make a value of four parts exactly when they have these values. -/
theorem quadruple_eq_value {f : α → β → γ → δ → ε} {a : α} {b : β} {c : γ} {d : δ}
    (hf : ∀ a' b' c' d', f a' b' c' d' = f a b c d → a' = a ∧ b' = b ∧ c' = c ∧ d' = d)
    {w : Reading α} {x : Reading β} {y : Reading γ} {z : Reading δ} :
    f <$> w <*> x <*> y <*> z = value (f a b c d) ↔
      w = value a ∧ x = value b ∧ y = value c ∧ z = value d := by
  simp only [seq_eq_value, map_eq_value]
  constructor
  · rintro ⟨_, d', ⟨_, c', ⟨_, b', ⟨a', hw, rfl⟩, hx, rfl⟩, hy, rfl⟩, hz, heq⟩
    obtain ⟨rfl, rfl, rfl, rfl⟩ := hf a' b' c' d' heq
    exact ⟨hw, hx, hy, hz⟩
  · rintro ⟨hw, hx, hy, hz⟩
    exact ⟨_, d, ⟨_, c, ⟨_, b, ⟨a, hw, rfl⟩, hx, rfl⟩, hy, rfl⟩, hz, rfl⟩

end Reading

/-- A record is decoded from its spellings when its fields are. -/
theorem Json.record_eq_ok_iff_spells {α : Type} {fields : Layout → Reading α} {a : α}
    {width : Nat} {spellings : List FieldSpelling} {j : Json} (hwidth : spellings.length = width)
    (h : ∀ l, fields l = .value a ↔ FieldSpelling.AllAt l 0 spellings) :
    j.record width fields = .ok a ↔ SpellsRecord spellings j := by
  rw [record_eq_ok, spellsRecord_iff, hwidth]
  exact exists_congr fun l => and_congr_right fun _ => and_congr_left fun _ => h l

open FieldSpelling Layout

/-- A string decodes from itself only. -/
theorem Json.asString_eq_ok {j : Json} {s : String} : j.asString = .ok s ↔ j = string s := by
  cases j <;> simp [asString]

/-- A boolean decodes from itself only. -/
theorem Json.asBool_eq_ok {j : Json} {b : Bool} : j.asBool = .ok b ↔ j = bool b := by
  cases j <;> simp [asBool]

/-- Only the whole number itself is read as an unsigned number. -/
theorem Json.asUInt64_eq_ok {j : Json} {n : UInt64} : j.asUInt64 = .ok n ↔ j = ofUInt64 n := by
  cases j with
  | integer m =>
    obtain ⟨value, lower, upper⟩ := m
    simp only [asUInt64, ofUInt64, integer.injEq, WholeNumber.mk.injEq]
    split
    case isTrue h =>
      rw [Except.ok.injEq, ← UInt64.toNat_inj, UInt64.toNat_ofNat']
      omega
    case isFalse h => simp; omega
  | _ => simp [asUInt64, ofUInt64]

/-- Only the whole number itself is read as a signed number. -/
theorem Json.asInt64_eq_ok {j : Json} {n : Int64} : j.asInt64 = .ok n ↔ j = ofInt64 n := by
  cases j with
  | integer m =>
    obtain ⟨value, lower, upper⟩ := m
    have hn := n.toInt_lt
    simp only [asInt64, ofInt64, integer.injEq, WholeNumber.mk.injEq]
    split
    case isTrue h =>
      rw [Except.ok.injEq, ← Int64.toInt_inj, Int64.toInt_ofInt_of_le (by omega) (by omega)]
    case isFalse h => simp; omega
  | _ => simp [asInt64, ofInt64]

/-- A floating-point number decodes from its spellings. -/
theorem Json.asBinary64_eq_ok {j : Json} {x : Binary64} : j.asBinary64 = .ok x ↔ x.Spells j := by
  cases j with
  | integer n => simp [asBinary64, Binary64.Spells]
  | float y =>
    obtain ⟨y, hy⟩ := y
    simp only [asBinary64, Except.ok.injEq, Binary64.Spells, float.injEq, Subtype.mk.injEq]
    constructor
    · rintro rfl
      exact .inl ⟨hy, rfl⟩
    · rintro (⟨-, h⟩ | ⟨n, h, -⟩)
      · exact h
      · simp at h
  | _ => simp [asBinary64, Binary64.Spells]

/-- A span is decoded from its spellings. -/
theorem Span.decode_eq_ok {s : Span} {j : Json} : decode j = .ok s ↔ s.Spells j := by
  refine Json.record_eq_ok_iff_spells rfl fun l => ?_
  have hmk : Function.Injective2 Span.mk := fun _ _ _ _ h => Span.mk.inj h
  simp only [AllAt, and_true]
  exact (Reading.pair_eq_value hmk).trans <|
    and_congr (read_required fun _ => Json.asUInt64_eq_ok)
      (read_required fun _ => Json.asUInt64_eq_ok)

/-- The place of a node is read from the spellings of the field. -/
theorem Layout.span_eq_value {l : Layout} {index : Nat} {s : Span} :
    l.span index = .value s ↔ s.spelling.At l index :=
  read_defaulted (fun _ => Span.decode_eq_ok) eq_comm

/-- A name is decoded from its spellings. -/
theorem Ident.decode_eq_ok {i : Ident} {j : Json} : decode j = .ok i ↔ i.Spells j := by
  refine Json.record_eq_ok_iff_spells rfl fun l => ?_
  have hmk : Function.Injective2 Ident.mk := fun _ _ _ _ h => Ident.mk.inj h
  simp only [AllAt, and_true]
  exact (Reading.pair_eq_value hmk).trans <|
    and_congr (read_required fun _ => Json.asString_eq_ok)
      (read_required fun _ => Span.decode_eq_ok)

/-- In a table in which every alternative has one name, only that name finds it. -/
theorem lookup_eq_some_iff_eq {τ : Type} {names : List (String × τ)} {name : String} {tag : τ}
    (hnames : (names.map Prod.snd).Nodup) (hfound : names.lookup name = some tag)
    (other : String) : names.lookup other = some tag ↔ other = name := by
  have hmem {key : String} (h : names.lookup key = some tag) : (key, tag) ∈ names := by
    obtain ⟨before, after, rfl, -⟩ := List.lookup_eq_some_iff.mp h
    simp
  constructor
  · intro h
    have heq := List.inj_on_of_nodup_map hnames (hmem h) (hmem hfound) rfl
    exact (Prod.mk.inj heq).1
  · rintro rfl
    exact hfound

/-- A choice is decoded from the spellings of the one alternative that the value belongs to. -/
theorem Json.choice_eq_ok {τ α : Type} {names : List (String × τ)}
    {decode : τ → Json → Except DecodeError α} {a : α} {payload : Json → Prop} {j : Json}
    {name : String} {tag : τ} (hnames : (names.map Prod.snd).Nodup)
    (hfound : names.lookup name = some tag)
    (htag : ∀ other p, decode other p = .ok a → other = tag)
    (hpayload : ∀ p, decode tag p = .ok a ↔ payload p) :
    j.choice names decode = .ok a ↔ SpellsTagged name payload j := by
  unfold choice SpellsTagged
  constructor
  · intro h
    split at h
    case h_1 => simp at h
    case h_2 => simp at h
    case h_3 other p hvariant =>
      obtain rfl := htag other p h
      obtain ⟨found, rfl, hother⟩ := variant_eq_ok_some.mp hvariant
      obtain rfl := (lookup_eq_some_iff_eq hnames hfound found).mp hother
      exact ⟨p, rfl, (hpayload p).mp h⟩
  · rintro ⟨p, rfl, hp⟩
    rw [variant_tagged hfound]
    exact (hpayload p).mpr hp

/-- A mapped outcome is a value when the outcome is. -/
theorem Except.map_eq_ok {ε α β : Type} {x : Except ε α} {f : α → β} {b : β} :
    x.map f = .ok b ↔ ∃ a, x = .ok a ∧ f a = b := by
  cases x <;> simp [Except.map]

/-- Wrapping the answer loses nothing when the wrapper is injective. -/
theorem Except.map_eq_ok_iff {ε α β : Type} {f : α → β} (hf : Function.Injective f)
    {x : Except ε α} {a : α} : x.map f = .ok (f a) ↔ x = .ok a := by
  rw [map_eq_ok]
  exact ⟨fun ⟨b, hb, h⟩ => hf h ▸ hb, fun h => ⟨a, h, rfl⟩⟩

namespace Literal

/-- What belongs to each kind of literal when something is written for it. -/
def decodePayload : LiteralTag → Json → Except DecodeError Literal
  | .string, payload => payload.asString.map string
  | .integer, payload => payload.asInt64.map integer
  | .float, payload => payload.asBinary64.map float
  | .boolean, payload => payload.asBool.map boolean
  | .null, payload => (Json.noPayload (some payload)).map fun _ => null

/-- No kind of literals has two names. -/
theorem nodup_names : (LiteralTag.names.map Prod.snd).Nodup := by simp [LiteralTag.names]

/-- A literal is the bare name of null or a choice between its kinds. -/
theorem decode_eq_ok_iff {value : Literal} {j : Json} :
    decode j = .ok value ↔
      value = null ∧ j = .string "Null" ∨ j.choice LiteralTag.names decodePayload = .ok value := by
  have hnull : j.variant LiteralTag.names = .ok (.null, none) ↔ j = .string "Null" := by
    have hname (other : String) : LiteralTag.names.lookup other = some .null ↔ other = "Null" :=
      lookup_eq_some_iff_eq nodup_names rfl other
    rw [Json.variant_eq_ok_none]
    simp only [hname]
    constructor
    · rintro ⟨_, rfl, rfl⟩
      rfl
    · rintro rfl
      exact ⟨_, rfl, rfl⟩
  rw [← hnull]
  unfold decode Json.choice
  cases j.variant LiteralTag.names with
  | error e => simp
  | ok found =>
    obtain ⟨tag, payload⟩ := found
    cases payload with
    | none => cases tag <;> simp [Json.noPayload, Except.map, eq_comm]
    | some payload => cases tag <;> simp [decodePayload]

/-- The kind of a literal. -/
def tag : Literal → LiteralTag
  | string _ => .string
  | integer _ => .integer
  | float _ => .float
  | boolean _ => .boolean
  | null => .null

/-- What belongs to a kind of literals decodes to that kind. -/
theorem tag_of_decodePayload {tag : LiteralTag} {payload : Json} {value : Literal}
    (h : decodePayload tag payload = .ok value) : tag = value.tag := by
  cases tag <;> obtain ⟨_, -, rfl⟩ := Except.map_eq_ok.mp h <;> rfl

/-- A literal of a kind with a payload is decoded from the spellings of the payload. -/
theorem decode_eq_ok_of {value : Literal} {name : String} {payload : Json → Prop} {j : Json}
    (hvalue : value ≠ null) (hname : LiteralTag.names.lookup name = some value.tag)
    (hpayload : ∀ p, decodePayload value.tag p = .ok value ↔ payload p) :
    decode j = .ok value ↔ Json.SpellsTagged name payload j := by
  rw [decode_eq_ok_iff, or_iff_right fun h => hvalue h.1]
  exact Json.choice_eq_ok nodup_names hname (fun _ _ => tag_of_decodePayload) hpayload

/-- A literal is decoded from its spellings. -/
theorem decode_eq_ok {value : Literal} {j : Json} : decode j = .ok value ↔ value.Spells j := by
  cases value with
  | string value =>
    refine decode_eq_ok_of (by simp) rfl fun p => ?_
    simp [tag, decodePayload, Except.map_eq_ok, Json.asString_eq_ok]
  | integer value =>
    refine decode_eq_ok_of (by simp) rfl fun p => ?_
    simp [tag, decodePayload, Except.map_eq_ok, Json.asInt64_eq_ok]
  | float x =>
    refine decode_eq_ok_of (by simp) rfl fun p => ?_
    simp [tag, decodePayload, Except.map_eq_ok, Json.asBinary64_eq_ok]
  | boolean value =>
    refine decode_eq_ok_of (by simp) rfl fun p => ?_
    simp [tag, decodePayload, Except.map_eq_ok, Json.asBool_eq_ok]
  | null =>
    have hpayload (p : Json) : decodePayload .null p = .ok null ↔ p = .null := by
      cases p <;> simp [decodePayload, Json.noPayload, Except.map]
    have hchoice : j.choice LiteralTag.names decodePayload = .ok null ↔
        Json.SpellsTagged "Null" (· = .null) j :=
      Json.choice_eq_ok nodup_names rfl (fun _ _ => tag_of_decodePayload) hpayload
    rw [decode_eq_ok_iff, hchoice]
    simp [Spells, Json.SpellsBare, Json.SpellsTagged]

end Literal

/-- A choice between bare names is decoded from the spellings of the name. -/
theorem Json.bareVariant_eq_ok_iff_spells {τ : Type} {names : List (String × τ)} {name : String}
    {tag : τ} {j : Json} (hnames : (names.map Prod.snd).Nodup)
    (hfound : names.lookup name = some tag) :
    j.bareVariant names = .ok tag ↔ SpellsBare name j := by
  rw [bareVariant_eq_ok]
  simp only [lookup_eq_some_iff_eq hnames hfound]
  exact exists_eq_left

/-- An operator is decoded from its spellings. -/
theorem BinaryOp.decode_eq_ok {op : BinaryOp} {j : Json} : decode j = .ok op ↔ op.Spells j :=
  Json.bareVariant_eq_ok_iff_spells (by decide) (by cases op <;> rfl)

/-- A severity is decoded from its spellings. -/
theorem Severity.decode_eq_ok {s : Severity} {j : Json} : decode j = .ok s ↔ s.Spells j := by
  cases s
  exact Json.bareVariant_eq_ok_iff_spells (by decide) rfl

end StatementTree
