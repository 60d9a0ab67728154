import StatementTree.Proofs.Wire.Choice
import StatementTree.Proofs.Wire.Unfolding
import StatementTree.Proofs.Wire.Floats

/-!
# How the reading of an encoded record settles

The parts of an encoded record are all there. Each is read back, or it is refused for a value of
the wrong kind because a floating-point number inside it is not finite. The same then holds of
the record: it settles with the floating-point numbers of its parts taken together.
-/

namespace StatementTree

/-- What decoding an encoded value answers, given the floating-point numbers of the value. -/
def outcome {α : Type} (floats : List Binary64) (a : α) : Except DecodeError α :=
  if AllFinite floats then .ok a else .error .invalidType

variable {α β : Type}

/-- Without floating-point numbers a value decodes as it is. -/
theorem outcome_nil (a : α) : outcome [] a = .ok a := by simp [outcome]

/-- A change of the value changes the outcome alike. -/
theorem outcome_map (floats : List Binary64) (a : α) (f : α → β) :
    (outcome floats a).map f = outcome floats (f a) := by
  unfold outcome
  split <;> rfl

/-- Whether a reading has the value `a`, or only flaws of fields of the wrong kind when some
floating-point number is not finite. -/
def Reading.Settles (r : Reading α) (floats : List Binary64) (a : α) : Prop :=
  match r with
  | value b => AllFinite floats ∧ b = a
  | flawed first rest =>
    ¬ AllFinite floats ∧ ∀ flaw ∈ first :: rest, ∃ key, flaw = .unreadable key .invalidType

namespace Reading.Settles

/-- A change of the value keeps the floating-point numbers to settle with. -/
theorem map {r : Reading α} {floats : List Binary64} {a : α} (h : r.Settles floats a)
    (f : α → β) : (f <$> r).Settles floats (f a) := by
  change ((value f).seq r).Settles floats (f a)
  cases r with
  | value b =>
    obtain ⟨hfinite, rfl⟩ := h
    exact ⟨hfinite, rfl⟩
  | flawed first rest => exact h

/-- Joined readings settle with the floating-point numbers of both. -/
theorem seq {f : Reading (α → β)} {x : Reading α} {fs xs : List Binary64} {g : α → β} {a : α}
    (hf : f.Settles fs g) (hx : x.Settles xs a) : (f <*> x).Settles (fs ++ xs) (g a) := by
  change (f.seq x).Settles (fs ++ xs) (g a)
  cases f with
  | value g' =>
    obtain ⟨hfs, rfl⟩ := hf
    cases x with
    | value a' =>
      obtain ⟨hxs, rfl⟩ := hx
      exact ⟨(allFinite_append fs xs).mpr ⟨hfs, hxs⟩, rfl⟩
    | flawed first rest =>
      exact ⟨fun h => hx.1 ((allFinite_append fs xs).mp h).2, hx.2⟩
  | flawed first rest =>
    refine ⟨fun h => hf.1 ((allFinite_append fs xs).mp h).1, fun flaw hflaw => ?_⟩
    cases x with
    | value a' => exact hf.2 flaw (by simpa [flaws] using hflaw)
    | flawed first' rest' =>
      rw [flaws, ← List.cons_append, List.mem_append] at hflaw
      rcases hflaw with hflaw | hflaw
      · exact hf.2 flaw hflaw
      · exact hx.2 flaw hflaw

/-- A field settles as what is written for it decodes. -/
theorem read {l : Layout} {index : Nat} {key : String} {absence : Absence α}
    {decode : Json → Except DecodeError α} {j : Json} {floats : List Binary64} {a : α}
    (hslot : l.slot? index key = some j) (hdecode : decode j = outcome floats a) :
    (l.read index key absence decode).Settles floats a := by
  unfold Layout.read
  rw [hslot, Option.map_some, hdecode]
  unfold outcome
  split
  case isTrue h => exact ⟨h, rfl⟩
  case isFalse h => exact ⟨h, by simp⟩

/-- A field without floating-point numbers settles as soon as it decodes. -/
theorem plain {l : Layout} {index : Nat} {key : String} {absence : Absence α}
    {decode : Json → Except DecodeError α} {j : Json} {a : α}
    (hslot : l.slot? index key = some j) (hdecode : decode j = .ok a) :
    (l.read index key absence decode).Settles [] a :=
  read hslot (hdecode.trans (outcome_nil a).symm)

/-- A record that is written as an object is concluded as its reading settles: all faults are of
one kind, so it does not matter which comes first. -/
theorem conclude {members : List (String × Json)} {width : Nat} {r : Reading α}
    {floats : List Binary64} {a : α} (h : r.Settles floats a) :
    (Layout.named members).conclude width r = outcome floats a := by
  cases r with
  | value b =>
    obtain ⟨hfinite, rfl⟩ := h
    simp [Layout.conclude, outcome, hfinite]
  | flawed first rest =>
    obtain ⟨hinfinite, hflaws⟩ := h
    obtain ⟨key, hfirst⟩ := hflaws first (by simp)
    have hmem : .unreadable key .invalidType ∈ first :: rest := by simp [hfirst]
    obtain ⟨e, he⟩ := Option.ne_none_iff_exists'.mp (Layout.firstFault?_ne_none hmem)
    obtain ⟨key', hfault⟩ := Layout.mem_of_firstFault? he
    obtain ⟨key'', hkind⟩ := hflaws _ hfault
    obtain ⟨-, rfl⟩ : key' = key'' ∧ e = .invalidType := by simpa using hkind
    simp [Layout.conclude, outcome, hinfinite, he]

/-- A record that is written as an object decodes as its fields settle. -/
theorem record {members : List (String × Json)} {width : Nat} {fields : Layout → Reading α}
    {floats : List Binary64} {a : α} (h : (fields (.named members)).Settles floats a) :
    (Json.object members).record width fields = outcome floats a :=
  h.conclude

end Reading.Settles

namespace Json

/-- A string decodes from its encoding. -/
theorem asString_string (s : String) : (string s).asString = .ok s := rfl

/-- An offset decodes from its encoding. -/
theorem asUInt64_ofUInt64 (n : UInt64) : (ofUInt64 n).asUInt64 = .ok n := by
  simp [ofUInt64, asUInt64]

/-- An integer decodes from its encoding. -/
theorem asInt64_ofInt64 (n : Int64) : (ofInt64 n).asInt64 = .ok n := by
  have hlt : n.toInt < 9223372036854775808 := n.toInt_lt
  simp [ofInt64, asInt64, hlt]

/-- A floating-point number decodes from its encoding when it is finite. -/
theorem asBinary64_ofBinary64 (x : Binary64) : (ofBinary64 x).asBinary64 = outcome [x] x := by
  unfold ofBinary64
  split
  case isTrue h => simp [asBinary64, outcome, h]
  case isFalse h => simp [asBinary64, outcome, h]

/-- A list is read back when all its items are. -/
theorem listOf_map {decode : Json → Except DecodeError α} {encode : α → Json}
    {floats : α → List Binary64} {as : List α}
    (h : ∀ a ∈ as, decode (encode a) = outcome (floats a) a) :
    listOf decode (array (as.map encode)) = outcome (as.flatMap floats) as := by
  change (readAll (as.map encode) fun item _ => decode item) = _
  induction as with
  | nil =>
    rw [List.map_nil, readAll, List.flatMap_nil, outcome_nil]
  | cons a rest ih =>
    have hrest := ih fun b hb => h b (List.mem_cons_of_mem _ hb)
    rw [List.map_cons, readAll, h a (by simp), hrest]
    simp only [outcome, List.flatMap_cons, allFinite_append]
    by_cases hfinite : AllFinite (floats a)
    · by_cases htail : AllFinite (rest.flatMap floats) <;> simp [hfinite, htail, Except.map]
    · simp [hfinite]

/-- What is no null is read as something. -/
theorem nullable_of_ne_null {decode : Json → Except DecodeError α} {j : Json} (h : j ≠ null) :
    nullable decode j = (decode j).map some := by
  cases j <;> simp_all [nullable, orNull]

/-- A choice is decoded by what belongs to the alternative that it names. -/
theorem choice_tagged {τ : Type} {names : List (String × τ)} {name : String} (tag : τ)
    (h : names.lookup name = some tag) (decode : τ → Json → Except DecodeError α)
    (payload : Json) : (tagged name payload).choice names decode = decode tag payload := by
  simp [choice, variant_tagged h]

end Json

end StatementTree
