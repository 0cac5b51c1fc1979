import InfraAudit.Record.Error

/-!
Decoding values as records.

A record is an object, or a list of its fields in the order of their declaration.
Of several faults the first one counts: in an object, faults of present fields come
first, in the order of the fields in the object, and then missing fields in the
order of the declaration; in a list, the order of the declaration alone counts.
-/
namespace InfraAudit.Record

/-- A decoder of values. -/
abbrev Decoder (α : Type) := Value → Except DecodeError α

/-! ### Simple values -/

/-- A string. -/
def string : Decoder String
  | .string s => .ok s
  | v => .error (.mismatch v "a string")

/-- A boolean. -/
def boolean : Decoder Bool
  | .bool b => .ok b
  | v => .error (.mismatch v "a boolean")

/-- A natural number of 64 bits. -/
def natural : Decoder Nat
  | .number (.int n) =>
    if 0 ≤ n then .ok n.toNat
    else .error (.wrongValue (describe (.number (.int n))) "usize")
  | v => .error (.mismatch v "usize")

/-- Any value. -/
def any : Decoder Value := .ok

/-- A text that names a file. -/
def pathText : Decoder String
  | .string s => .ok s
  | v => .error (.mismatch v "path string")

/-- Null, or what a decoder reads. -/
def optional {α : Type} (decode : Decoder α) : Decoder (Option α)
  | .null => .ok none
  | v => (decode v).map some

/-- What a decoder reads, or nothing when it does not read the value. -/
def lenient {α : Type} (decode : Decoder α) : Decoder (Option α) := fun v =>
  match optional decode v with
  | .ok a => .ok a
  | .error _ => .ok none

/-- A list of what a decoder reads. -/
def list {α : Type} (decode : Decoder α) : Decoder (List α)
  | .array items => items.mapM decode
  | v => .error (.mismatch v "a sequence")

/-- An object whose values a decoder reads. -/
def map {α : Type} (decode : Decoder α) : Decoder (List (String × α))
  | .object fields => fields.mapM fun (k, v) => (decode v).map (k, ·)
  | v => .error (.mismatch v "a map")

/-- What a format of documents leaves open for records. -/
structure Layout where
  /-- What may stand beside the name of a member of an enumeration. -/
  unit : Decoder Unit
  /-- Whether a list of fields may be longer than the record. -/
  longLists : Bool

/-- Null, as the only thing that may stand beside a name. -/
def nullUnit : Decoder Unit
  | .null => .ok ()
  | v => .error (.mismatch v "unit")

/-- The layout of values: null beside a name, and lists of the right length. -/
def strict : Layout := ⟨nullUnit, false⟩

/-- The member of an enumeration that has a name. -/
def memberOf {α : Type} (names : List (String × α)) (name : String) : Except DecodeError α :=
  match names.lookup name with
  | some a => .ok a
  | none => .error (.unknownVariant name (names.map Prod.fst))

/-- An enumeration, given by its names; it is written as a name, or as an object
    with the name as its only key. -/
def enumerationIn {α : Type} (layout : Layout) (names : List (String × α)) : Decoder α
  | .string name => memberOf names name
  | .object [(name, v)] => do
    let a ← memberOf names name
    layout.unit v
    return a
  | .object _ => .error (.wrongValue "map" "map with a single key")
  | v => .error (.mismatch v "string or map")

/-- An enumeration in the layout of values. -/
def enumeration {α : Type} (names : List (String × α)) : Decoder α := enumerationIn strict names

/-! ### Records -/

/-- The place of a fault in the order in which faults count. -/
structure Rank where
  /-- Whether the fault is that of a missing field. -/
  missing : Bool
  place : Nat
  deriving DecidableEq

/-- Whether the fault of one rank counts before that of another. -/
def Rank.before (a b : Rank) : Bool :=
  (!a.missing && b.missing) || (a.missing == b.missing && decide (a.place ≤ b.place))

/-- What is read of a record: a part of it, or its first fault. -/
inductive Part (α : Type) where
  | ok (a : α)
  | fault (rank : Rank) (error : DecodeError)

namespace Part

/-- Puts two parts together; of two faults the first one counts. -/
def apply {α β : Type} (f : Part (α → β)) (x : Unit → Part α) : Part β :=
  match f, x () with
  | .ok f, .ok a => .ok (f a)
  | .ok _, .fault r e => .fault r e
  | .fault r e, .ok _ => .fault r e
  | .fault r e, .fault s g => if r.before s then .fault r e else .fault s g

instance : Applicative Part where
  pure := .ok
  seq := apply

/-- The part, or the error of its first fault. -/
def toExcept {α : Type} : Part α → Except DecodeError α
  | .ok a => .ok a
  | .fault _ e => .error e

end Part

/-- What a record is read from. -/
inductive Source where
  | object (fields : Fields)
  | array (items : List Value)

/-- A declared record: its name and the number of its fields. -/
structure Shape where
  name : String
  fields : Nat

/-- What stands for a field that is missing. -/
inductive Absent (α : Type) where
  /-- Nothing does. -/
  | required
  /-- A value does in objects, but lists must have the field. -/
  | unset (a : α)
  /-- A value does. -/
  | default (a : α)

/-- The place of a key in an object. -/
def placeOf (key : String) (fields : Fields) : Nat := fields.findIdx (fun (k, _) => k == key)

/-- What a decoder reads, with the rank of its fault. -/
def Part.ofDecoded {α : Type} (rank : Rank) : Except DecodeError α → Part α
  | .ok a => .ok a
  | .error e => .fault rank e

/-- The field of a record that is declared at an index. -/
def Source.field {α : Type} (source : Source) (shape : Shape) (index : Nat) (name : String)
    (decode : Decoder α) (absent : Absent α) : Part α :=
  match source with
  | .object fields =>
    match fields.lookup name with
    | some v => .ofDecoded ⟨false, placeOf name fields⟩ (decode v)
    | none =>
      match absent with
      | .required => .fault ⟨true, index⟩ (.missingField name)
      | .unset a | .default a => .ok a
  | .array items =>
    match items[index]? with
    | some v => .ofDecoded ⟨false, index⟩ (decode v)
    | none =>
      match absent with
      | .required | .unset _ =>
        let elements := if shape.fields = 1 then " element" else " elements"
        .fault ⟨false, index⟩ (.wrongLength index
          ("struct " ++ shape.name ++ " with " ++ toString shape.fields ++ elements))
      | .default a => .ok a

/-- A record of a shape in a layout, put together from its fields. -/
def recordIn {α : Type} (layout : Layout) (shape : Shape) (read : Source → Part α) : Decoder α
  | .object fields => (read (.object fields)).toExcept
  | .array items => do
    let a ← (read (.array items)).toExcept
    if !layout.longLists && shape.fields < items.length then
      .error (.wrongLength items.length "fewer elements in array")
    else .ok a
  | v => .error (.mismatch v ("struct " ++ shape.name))

/-- A record in the layout of values. -/
def record {α : Type} (shape : Shape) (read : Source → Part α) : Decoder α := recordIn strict shape read

/-! ### Encoding -/

/-- A list of values. -/
def encodeList {α : Type} (encode : α → Value) (items : List α) : Value := .array (items.map encode)

/-- A value, or null. -/
def encodeOption {α : Type} (encode : α → Value) : Option α → Value
  | some a => encode a
  | none => .null

/-- A field that is left out when it is not set. -/
def fieldIfSome {α : Type} (name : String) (encode : α → Value) : Option α → Fields
  | some a => [(name, encode a)]
  | none => []

/-- A field that is left out when its list is empty. -/
def fieldUnlessEmpty {α : Type} (name : String) (encode : α → Value) (items : List α) : Fields :=
  if items.isEmpty then [] else [(name, encodeList encode items)]

/-- A natural number. -/
def encodeNat (n : Nat) : Value := .number (.int n)

end InfraAudit.Record
