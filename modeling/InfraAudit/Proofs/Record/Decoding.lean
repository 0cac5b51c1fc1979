import InfraAudit.Proofs.Validation
import InfraAudit.Record.Decoder

/-!
What decoders of records read. A value stands for a record of some fields if it is an
object, or a list with at most as many items (`Value.standsFor`); each field is then
found by its name or by its place (`Value.part?`), and the record is read when each of its
fields is (`record_eq_ok_iff` with `Part.seq_eq_ok_iff`).
-/
namespace InfraAudit

/-! ### Values that stand for records -/

/-- Whether a value stands for a record of some fields: an object does, and a list that
    is not too long. -/
def Value.standsFor (fields : Nat) : Value → Bool
  | .object _ => true
  | .array items => items.length ≤ fields
  | _ => false

/-- The part of a value that stands for the field of a record: that of the field's name
    in an object, that in the field's place in a list. -/
def Value.part? (v : Value) (index : Nat) (name : String) : Option Value :=
  match v with
  | .object fields => fields.lookup name
  | .array items => items[index]?
  | _ => none

theorem Value.part?_of_object {v : Value} (object : v.isObject = true) (index : Nat) (name : String) :
    v.part? index name = v.field? name := by
  cases v with
  | object fields => rfl
  | _ => cases object

theorem Value.standsFor_of_object {v : Value} (object : v.isObject = true) (fields : Nat) :
    v.standsFor fields = true := by
  cases v with
  | object fields => rfl
  | _ => cases object

theorem Value.isObject_of_standsFor {v : Value} {fields : Nat} (stands : v.standsFor fields = true)
    (unlisted : ∀ items, v ≠ .array items) : v.isObject = true := by
  cases v with
  | object fields => rfl
  | array items => exact absurd rfl (unlisted items)
  | _ => cases stands

namespace Record

section
variable {α β : Type}

/-! ### Parts of records -/

namespace Part

theorem toExcept_eq_ok_iff (p : Part α) (a : α) : p.toExcept = .ok a ↔ p = .ok a := by
  cases p with
  | ok b => simp [toExcept]
  | fault rank e => simp [toExcept]

theorem seq_eq_ok_iff (f : Part (α → β)) (x : Part α) (b : β) :
    (f <*> x) = .ok b ↔ ∃ g a, f = .ok g ∧ x = .ok a ∧ g a = b := by
  change apply f (fun _ => x) = .ok b ↔ _
  unfold apply
  cases f with
  | ok g => cases x <;> simp
  | fault rank e =>
    cases x with
    | ok a => simp
    | fault later e' =>
      by_cases before : rank.before later = true <;> simp [before]

theorem map_eq_ok_iff (g : α → β) (x : Part α) (b : β) : (g <$> x) = .ok b ↔ ∃ a, x = .ok a ∧ g a = b := by
  have pure : (g <$> x) = ((Part.ok g : Part (α → β)) <*> x) := rfl
  rw [pure, seq_eq_ok_iff]
  simp

theorem ofDecoded_eq_ok_iff (rank : Rank) (read : Except DecodeError α) (a : α) :
    ofDecoded rank read = .ok a ↔ read = .ok a := by
  cases read <;> simp [ofDecoded]

end Part

/-! ### Sources of fields -/

/-- What a value gives to read a record from. -/
def source? : Value → Option Source
  | .object fields => some (.object fields)
  | .array items => some (.array items)
  | _ => none

theorem exists_source? {v : Value} {fields : Nat} (stands : v.standsFor fields = true) : ∃ s, source? v = some s := by
  cases v with
  | object entries => exact ⟨_, rfl⟩
  | array items => exact ⟨_, rfl⟩
  | _ => cases stands

/-- A record is read from a value that stands for one, if its fields are. -/
theorem record_eq_ok_iff (shape : Shape) (read : Source → Part α) (v : Value) (a : α) :
    record shape read v = .ok a ↔
      v.standsFor shape.fields = true ∧ ∃ s, source? v = some s ∧ read s = .ok a := by
  cases v with
  | object fields => simp [record, recordIn, Part.toExcept_eq_ok_iff, Value.standsFor, source?]
  | array items =>
    -- A list that is too long is only refused once its parts have been read.
    simp only [record, recordIn, strict, Value.standsFor, source?, decide_eq_true_eq, Option.some.injEq,
      exists_eq_left']
    cases parts : read (.array items) with
    | fault rank e => simp [Part.toExcept, bind, Except.bind]
    | ok b =>
      by_cases long : shape.fields < items.length
      · have short : ¬ items.length ≤ shape.fields := Nat.not_le_of_gt long
        simp [Part.toExcept, bind, Except.bind, long, short]
      · simp [Part.toExcept, bind, Except.bind, long, Nat.le_of_not_lt long]
  | _ => simp [record, recordIn, source?]

section
variable {v : Value} {s : Source} {shape : Shape} {index : Nat} {name : String} {decode : Decoder α}

theorem field_required_eq_ok_iff (source : source? v = some s) (a : α) :
    s.field shape index name decode .required = .ok a ↔ ∃ w, v.part? index name = some w ∧ decode w = .ok a := by
  cases v with
  | object fields =>
    cases source
    simp only [Source.field, Value.part?]
    cases fields.lookup name <;> simp [Part.ofDecoded_eq_ok_iff]
  | array items =>
    cases source
    simp only [Source.field, Value.part?]
    cases items[index]? <;> simp [Part.ofDecoded_eq_ok_iff]
  | _ => cases source

theorem field_default_eq_ok_iff (source : source? v = some s) (a b : α) :
    s.field shape index name decode (.default b) = .ok a ↔
      (v.part? index name).elim (Except.ok b) decode = .ok a := by
  cases v with
  | object fields =>
    cases source
    simp only [Source.field, Value.part?]
    cases fields.lookup name <;> simp [Part.ofDecoded_eq_ok_iff]
  | array items =>
    cases source
    simp only [Source.field, Value.part?]
    cases items[index]? <;> simp [Part.ofDecoded_eq_ok_iff]
  | _ => cases source

/-- In an object, a field that need not be set is read as one that has a default. -/
theorem field_unset_eq_ok_iff (source : source? v = some s) (object : v.isObject = true) (a b : α) :
    s.field shape index name decode (.unset b) = .ok a ↔
      (v.part? index name).elim (Except.ok b) decode = .ok a := by
  cases v with
  | object fields =>
    cases source
    simp only [Source.field, Value.part?]
    cases fields.lookup name <;> simp [Part.ofDecoded_eq_ok_iff]
  | _ => cases object

end

/-! ### Lenient fields -/

theorem optional_of_proper {v : Value} (proper : v.isNull = false) (decode : Decoder α) :
    optional decode v = (decode v).map some := by
  cases v with
  | null => cases proper
  | _ => rfl

/-- What a lenient decoder does not read counts as not set. -/
theorem lenient_eq {decode : Decoder α} (refused : (decode .null).toOption = none) (v : Value) :
    lenient decode v = .ok (decode v).toOption := by
  cases proper : v.isNull with
  | false =>
    rw [lenient, optional_of_proper proper]
    cases decode v <;> rfl
  | true =>
    cases v with
    | null => exact congrArg Except.ok refused.symm
    | _ => cases proper

/-- A lenient field is set to what is read from its part of the value, if anything is. -/
theorem field_lenient_eq_ok_iff {v : Value} {s : Source} {shape : Shape} {index : Nat} {name : String}
    {decode : Decoder α} (source : source? v = some s) (refused : (decode .null).toOption = none) (a : Option α) :
    s.field shape index name (lenient decode) (.default none) = .ok a ↔
      a = (v.part? index name).bind (fun w => (decode w).toOption) := by
  rw [field_default_eq_ok_iff source]
  cases v.part? index name with
  | none => simp [eq_comm]
  | some w => simp [lenient_eq refused, eq_comm]

theorem optional_any (v : Value) : optional any v = .ok ((some v).filter (fun w => !w.isNull)) := by
  cases v <;> rfl

/-- A field of any form is read from its part of a value, null counting as nothing. -/
theorem field_optional_any_eq_ok_iff {v : Value} {s : Source} {shape : Shape} {index : Nat} {name : String}
    (source : source? v = some s) (a : Option Value) :
    s.field shape index name (optional any) (.default none) = .ok a ↔
      a = (v.part? index name).filter (fun w => !w.isNull) := by
  rw [field_default_eq_ok_iff source]
  cases v.part? index name with
  | none => simp [eq_comm]
  | some w => rw [Option.elim_some, optional_any, Except.ok.injEq, eq_comm]

/-- Where errors do not count, a record whose fields can always be read is read from every
    value that stands for one. -/
theorem toOption_record {shape : Shape} {read : Source → Part α} {f : Value → α}
    (reads : ∀ {v s}, source? v = some s → ∀ a, read s = .ok a ↔ f v = a) (v : Value) :
    (record shape read v).toOption = if v.standsFor shape.fields then some (f v) else none := by
  by_cases stands : v.standsFor shape.fields = true
  · obtain ⟨s, source⟩ := exists_source? stands
    have made : record shape read v = .ok (f v) :=
      (record_eq_ok_iff shape read v (f v)).mpr ⟨stands, s, source, (reads source (f v)).mpr rfl⟩
    rw [made, if_pos stands]
    rfl
  · rw [if_neg stands]
    cases made : record shape read v with
    | error e => rfl
    | ok a => exact absurd ((record_eq_ok_iff shape read v a).mp made).1 stands

section
variable {v : Value} {s : Source} {shape : Shape} {index : Nat} {name : String}

theorem field_boolean_eq_ok_iff (source : source? v = some s) (a : Option Bool) :
    s.field shape index name (lenient boolean) (.default none) = .ok a ↔ a = (v.part? index name).bind Value.bool? := by
  have reads : (fun w => (boolean w).toOption) = Value.bool? := by
    funext w
    cases w <;> rfl
  rw [field_lenient_eq_ok_iff source rfl, reads]

theorem field_string_eq_ok_iff (source : source? v = some s) (a : Option String) :
    s.field shape index name (lenient string) (.default none) = .ok a ↔ a = (v.part? index name).bind Value.str? := by
  have reads : (fun w => (string w).toOption) = Value.str? := by
    funext w
    cases w <;> rfl
  rw [field_lenient_eq_ok_iff source rfl, reads]

end

theorem string_eq_ok_iff (v : Value) (s : String) : string v = .ok s ↔ v = .string s := by
  cases v <;> simp [string]

end

end Record

end InfraAudit
