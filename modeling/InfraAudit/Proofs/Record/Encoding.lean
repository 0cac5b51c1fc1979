import InfraAudit.Proofs.Record.Decoding
import InfraAudit.Proofs.Value.Order

/-!
Records that are written and read back. The fields of an object have no order of their
own, so a record may be read from its value as it was made or with the keys in order: what
is said here of a value that is written holds for every way of writing that leaves what
stands under each key, and each item of a list, in its place (`Rearranges`). A record is
read back when each of its fields is: a field is found under its name
(`WrittenAs.field`), or it was left out, and what then stands for it is the value that it
was left out for (`WrittenAs.optional`, `WrittenAs.lenient`, `WrittenAs.listed`).
-/
namespace InfraAudit

theorem Value.sortItems_eq_map (items : List Value) : sortItems items = items.map sortKeys := by
  induction items with
  | nil => rfl
  | cons v rest ih => rw [sortItems, ih, List.map_cons]

namespace Record

/-! ### Ways to write values -/

/-- The fields of an object are written with the same keys, each with its value as it is
    written. -/
def WrittenAs (write : Value → Value) (fields written : Fields) : Prop :=
  ∀ key, written.lookup key = (fields.lookup key).map write

/-- A way to write values that keeps what they say. -/
structure Rearranges (write : Value → Value) : Prop where
  null_eq : write .null = .null
  bool_eq (b : Bool) : write (.bool b) = .bool b
  number_eq (n : Number) : write (.number n) = .number n
  string_eq (s : String) : write (.string s) = .string s
  array_eq (items : List Value) : write (.array items) = .array (items.map write)
  exists_object (fields : Fields) : ∃ written, write (.object fields) = .object written ∧ WrittenAs write fields written

/-- Values may be written as they are. -/
theorem rearranges_id : Rearranges id where
  null_eq := rfl
  bool_eq _ := rfl
  number_eq _ := rfl
  string_eq _ := rfl
  array_eq items := by rw [List.map_id, id]
  exists_object fields := ⟨fields, rfl, fun key => by rw [Option.map_id, id]⟩

/-- Values may be written with their keys in order. -/
theorem rearranges_sortKeys : Rearranges Value.sortKeys where
  null_eq := rfl
  bool_eq _ := rfl
  number_eq _ := rfl
  string_eq _ := rfl
  array_eq items := congrArg Value.array (Value.sortItems_eq_map items)
  exists_object fields := ⟨Value.sortFields fields, rfl, fun key => Value.field?_sortKeys key (.object fields)⟩

/-- A value that may stand in a field that need not be set: null would count as not set, and
    another value is only read back as it was if it is written so. -/
def Settled (write : Value → Value) (state : Option Value) : Prop := ∀ v ∈ state, v.isNull = false ∧ write v = v

section
variable {write : Value → Value} {v : Value}

theorem write_of_map {o : Option Value} {w : Value} (fixed : o.map write = o) (held : o = some w) : write w = w := by
  rw [held] at fixed
  exact Option.some.inj fixed

theorem settled_filter {o : Option Value} (fixed : o.map write = o) : Settled write (o.filter (fun w => !w.isNull)) := by
  intro w member
  obtain ⟨held, proper⟩ := Option.filter_eq_some_iff.mp member
  exact ⟨Bool.not_eq_true' _ ▸ proper, write_of_map fixed held⟩

namespace Rearranges

variable (r : Rearranges write) (kept : write v = v)

include r

theorem part? (v : Value) (index : Nat) (name : String) : (write v).part? index name = (v.part? index name).map write := by
  cases v with
  | null => rw [r.null_eq]; rfl
  | bool b => rw [r.bool_eq]; rfl
  | number n => rw [r.number_eq]; rfl
  | string s => rw [r.string_eq]; rfl
  | array items =>
    rw [r.array_eq]
    exact List.getElem?_map
  | object fields =>
    obtain ⟨written, object, held⟩ := r.exists_object fields
    rw [object]
    exact held name

include kept

-- What a value holds is written as it is if the value is.

theorem write_item {items : List Value} (list : v = .array items) : ∀ w ∈ items, write w = w := by
  rw [list, r.array_eq] at kept
  exact List.map_inj_left.mp ((Value.array.inj kept).trans (List.map_id items).symm)

theorem map_part? (index : Nat) (name : String) : (v.part? index name).map write = v.part? index name := by
  rw [← r.part?, kept]

theorem map_field? (key : String) : (v.field? key).map write = v.field? key := by
  cases v with
  | object fields => exact r.map_part? kept 0 key
  | _ => rfl

theorem settled_present? (key : String) : Settled write (v.present? key) := settled_filter (r.map_field? kept key)

end Rearranges

end

/-! ### Simple values -/

section
variable {α : Type} {decode : Decoder α} {encode : α → Value}

theorem optional_of_read (refused : (decode .null).toOption = none) {v : Value} {a : α} (read : decode v = .ok a) :
    optional decode v = .ok (some a) := by
  cases v with
  | null =>
    rw [read] at refused
    cases refused
  | _ => exact congrArg (Except.map some) read

namespace Rearranges

variable {write : Value → Value} (r : Rearranges write)

include r

theorem string (s : String) : Record.string (write (.string s)) = .ok s := by
  rw [r.string_eq, Record.string]

theorem natural (n : Nat) : Record.natural (write (encodeNat n)) = .ok n := by
  rw [encodeNat, r.number_eq, Record.natural, if_pos (Int.natCast_nonneg n), Int.toNat_natCast]

theorem boolean (b : Bool) : Record.boolean (write (.bool b)) = .ok b := by
  rw [r.bool_eq, Record.boolean]

/-- A name is read back wherever it is written. -/
theorem name {v : Value} {a : α} {s : String} (read : decode v = .ok a) (text : v = .string s) :
    decode (write v) = .ok a := by
  rw [text, r.string_eq, ← text, read]

theorem list {items : List α} (read : ∀ a ∈ items, decode (write (encode a)) = .ok a) :
    Record.list decode (write (encodeList encode items)) = .ok items := by
  rw [encodeList, r.array_eq, Record.list]
  induction items with
  | nil => rfl
  | cons a rest ih =>
    obtain ⟨first, later⟩ := List.forall_mem_cons.mp read
    rw [List.map_cons, List.map_cons, List.mapM_cons, first, ih later]
    rfl

/-- A state that is not set is written as null. -/
theorem state {o : Option Value} (settled : Settled write o) :
    Record.optional any (write (encodeOption id o)) = .ok o := by
  cases o with
  | none => rw [encodeOption, r.null_eq, Record.optional]
  | some v =>
    obtain ⟨proper, kept⟩ := settled v rfl
    rw [encodeOption, id, kept, optional_of_proper proper]
    rfl

end Rearranges

end

/-! ### Fields -/

section
variable {α : Type} {name key : String} {encode : α → Value}

theorem lookup_fieldIfSome (o : Option α) :
    (fieldIfSome name encode o).lookup key = if key = name then o.map encode else none := by
  by_cases same : key = name <;> cases o <;> simp [fieldIfSome, List.lookup_cons, same, beq_false_of_ne]

theorem lookup_fieldUnlessEmpty (items : List α) :
    (fieldUnlessEmpty name encode items).lookup key =
      if key = name ∧ items ≠ [] then some (encodeList encode items) else none := by
  by_cases same : key = name <;> cases items <;>
    simp [fieldUnlessEmpty, List.lookup_cons, same, beq_false_of_ne]

end

/-- A part of a record that is read without a fault. -/
def Part.Gives {α : Type} (p : Part α) (a : α) : Prop := p = .ok a

section
variable {α β : Type}

theorem Part.Gives.map {p : Part α} {a : α} (given : p.Gives a) (g : α → β) : (g <$> p).Gives (g a) :=
  (Part.map_eq_ok_iff g p (g a)).mpr ⟨a, given, rfl⟩

theorem Part.Gives.seq {f : Part (α → β)} {g : α → β} (given : f.Gives g) {p : Part α} {a : α} (next : p.Gives a) :
    (f <*> p).Gives (g a) :=
  (Part.seq_eq_ok_iff f p (g a)).mpr ⟨g, a, given, next, rfl⟩

end

namespace WrittenAs

variable {α : Type} {write : Value → Value} {fields written : Fields} (held : WrittenAs write fields written)
  {shape : Shape} {index : Nat} {name : String} {decode : Decoder α} {encode : α → Value}

include held

/-- A field that is always written is read from what stands under its name. -/
theorem field {v : Value} {a : α} {absent : Absent α} (read : decode (write v) = .ok a)
    (found : fields.lookup name = some v) : ((Source.object written).field shape index name decode absent).Gives a := by
  simp only [Part.Gives, Source.field, held name, found, Option.map_some, read, Part.ofDecoded]

/-- A field that is left out is what stands for it when it is missing. -/
theorem field_missing {a : α} (found : fields.lookup name = none) :
    ((Source.object written).field shape index name decode (.default a)).Gives a := by
  simp only [Part.Gives, Source.field, held name, found, Option.map_none]

theorem optional {o : Option α} (refused : (decode .null).toOption = none)
    (read : ∀ a ∈ o, decode (write (encode a)) = .ok a) (found : fields.lookup name = o.map encode) :
    ((Source.object written).field shape index name (Record.optional decode) (.default none)).Gives o := by
  cases o with
  | none => exact held.field_missing found
  | some a => exact held.field (optional_of_read refused (read a rfl)) found

theorem lenient {o : Option α} (refused : (decode .null).toOption = none)
    (read : ∀ a ∈ o, decode (write (encode a)) = .ok a) (found : fields.lookup name = o.map encode) :
    ((Source.object written).field shape index name (Record.lenient decode) (.default none)).Gives o := by
  cases o with
  | none => exact held.field_missing found
  | some a =>
    refine held.field ?_ found
    rw [lenient_eq refused, read a rfl, Except.toOption]

theorem settled {o : Option Value} (settled : Settled write o) (found : fields.lookup name = o.map id) :
    ((Source.object written).field shape index name (Record.optional any) (.default none)).Gives o := by
  cases o with
  | none => exact held.field_missing found
  | some v =>
    obtain ⟨proper, kept⟩ := settled v rfl
    refine held.field ?_ found
    rw [id, kept, optional_of_proper proper]
    rfl

theorem listed {items : List α} (read : Record.list decode (write (encodeList encode items)) = .ok items)
    (found : fields.lookup name = if items ≠ [] then some (encodeList encode items) else none) :
    ((Source.object written).field shape index name (Record.list decode) (.default [])).Gives items := by
  cases items with
  | nil => exact held.field_missing found
  | cons a rest => exact held.field read found

end WrittenAs

/-! ### Records -/

/-- A record is read back when it is read from the fields as they are written. -/
theorem Rearranges.record {α : Type} {write : Value → Value} (r : Rearranges write) {shape : Shape}
    {read : Source → Part α} {fields : Fields} {a : α}
    (reads : ∀ {written}, WrittenAs write fields written → (read (.object written)).Gives a) :
    Record.record shape read (write (.object fields)) = .ok a := by
  obtain ⟨written, object, held⟩ := r.exists_object fields
  rw [object]
  exact (Part.toExcept_eq_ok_iff _ a).mpr (reads held)

end Record

end InfraAudit
