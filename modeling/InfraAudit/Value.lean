/-!
Dynamic values, the common form of plans, manifests and tool arguments.

A number keeps the way it was written: an integer and a double are different
values even where they denote the same number. An object is a list of fields;
readers build it with `Value.ofFields`, which orders the keys and lets the last
of several equal keys win.
-/
namespace InfraAudit

/-- An integer of up to 64 bits, signed or unsigned, or a double. -/
inductive Number where
  | int (n : Int)
  | double (x : Float)
  deriving Inhabited

/-- A value of a structured document. -/
inductive Value where
  | null
  | bool (b : Bool)
  | number (n : Number)
  | string (s : String)
  | array (items : List Value)
  | object (fields : List (String × Value))
  deriving Inhabited

/-- The fields of an object, or of a record part of one. -/
abbrev Fields := List (String × Value)

namespace Number

/-- Integers are equal as integers and doubles as doubles (so the two zeros are
    equal); an integer never equals a double. -/
def beq : Number → Number → Bool
  | .int m, .int n => m == n
  | .double x, .double y => x == y
  | _, _ => false

instance : BEq Number := ⟨beq⟩

/-- The number as a signed 64-bit integer, if it is one. -/
def int64? : Number → Option Int
  | .int n => if -0x8000000000000000 ≤ n ∧ n ≤ 0x7FFFFFFFFFFFFFFF then some n else none
  | .double _ => none

/-- Whether the number is zero. -/
def isZero : Number → Bool
  | .int n => n == 0
  | .double x => x == 0.0

end Number

namespace Value

mutual

/-- Equality of values: of arrays item by item, of objects field by field. -/
def beq : Value → Value → Bool
  | .null, .null => true
  | .bool a, .bool b => a == b
  | .number a, .number b => a == b
  | .string a, .string b => a == b
  | .array as, .array bs => beqItems as bs
  | .object as, .object bs => beqFields as bs
  | _, _ => false

/-- Equality of lists of values. -/
def beqItems : List Value → List Value → Bool
  | [], [] => true
  | a :: as, b :: bs => beq a b && beqItems as bs
  | _, _ => false

/-- Equality of lists of fields. -/
def beqFields : Fields → Fields → Bool
  | [], [] => true
  | (k, a) :: as, (l, b) :: bs => k == l && beq a b && beqFields as bs
  | _, _ => false

end

instance : BEq Value := ⟨beq⟩

/-! ### Building objects -/

/-- Puts a field at the place of its key in a list of fields ordered by key,
    where it replaces a field of the same key. -/
def insertField (key : String) (value : Value) : Fields → Fields
  | [] => [(key, value)]
  | (k, v) :: rest =>
    if key < k then (key, value) :: (k, v) :: rest
    else if key = k then (key, value) :: rest
    else (k, v) :: insertField key value rest

/-- A field that was put into a list of fields is found there, and no other field is
    changed. -/
theorem lookup_insertField (key k : String) (value : Value) (fields : Fields) :
    (insertField key value fields).lookup k = if k = key then some value else fields.lookup k := by
  induction fields with
  | nil => grind [insertField]
  | cons f fields ih =>
    obtain ⟨l, w⟩ := f
    grind [insertField]

/-- The object of some fields: keys in order, the last of equal keys kept. -/
def ofFields (fields : Fields) : Value :=
  .object (fields.foldl (fun acc (k, v) => insertField k v acc) [])

mutual

/-- The same value with the keys of every object in order. -/
def sortKeys : Value → Value
  | .array items => .array (sortItems items)
  | .object fields => .object (sortFields fields)
  | v => v

/-- The values of a list, each with the keys of its objects in order. -/
def sortItems : List Value → List Value
  | [] => []
  | v :: rest => sortKeys v :: sortItems rest

/-- The fields of a list in the order of their keys. -/
def sortFields : Fields → Fields
  | [] => []
  | (k, v) :: rest => insertField k (sortKeys v) (sortFields rest)

end

/-! ### Reading values -/

/-- The name of a value's type. -/
def typeName : Value → String
  | .null => "null"
  | .bool _ => "boolean"
  | .number _ => "number"
  | .string _ => "string"
  | .array _ => "array"
  | .object _ => "object"

/-- Whether the value is null. -/
def isNull : Value → Bool
  | .null => true
  | _ => false

/-- Whether the value is an object. -/
def isObject : Value → Bool
  | .object _ => true
  | _ => false

/-- The text of a string. -/
def str? : Value → Option String
  | .string s => some s
  | _ => none

/-- The truth value of a boolean. -/
def bool? : Value → Option Bool
  | .bool b => some b
  | _ => none

/-- The signed 64-bit integer that a value is. -/
def int64? : Value → Option Int
  | .number n => n.int64?
  | _ => none

/-- The items of an array. -/
def items? : Value → Option (List Value)
  | .array items => some items
  | _ => none

/-- The fields of an object. -/
def fields? : Value → Option Fields
  | .object fields => some fields
  | _ => none

/-- What an object holds under a key; any other value holds nothing. -/
def field? (v : Value) (key : String) : Option Value :=
  match v with
  | .object fields => fields.lookup key
  | _ => none

/-- What an object holds under a key, null counting as nothing. -/
def present? (v : Value) (key : String) : Option Value :=
  (v.field? key).filter (fun w => !w.isNull)

/-- The string under a key. -/
def fieldStr? (v : Value) (key : String) : Option String := (v.field? key).bind str?

/-- The array under a key. -/
def fieldArray? (v : Value) (key : String) : Option (List Value) := (v.field? key).bind items?

/-- The entries of the array under a key; none when there is no array. -/
def entries (v : Value) (key : String) : List Value := (v.fieldArray? key).getD []

/-- The first entry of a block, which plans write as a list of one entry. -/
def firstEntry? (v : Value) (key : String) : Option Value := (v.fieldArray? key).bind List.head?

/-- A key is absent when it is missing or null; an empty block is present. -/
def isAbsent (v : Value) (key : String) : Bool :=
  match v.field? key with
  | none | some .null => true
  | _ => false

/-- Whether a flag is on: true, a text that is not empty, a number that is not
    zero, or any block. -/
def isTruthy (v : Value) (key : String) : Bool :=
  match v.field? key with
  | none | some .null => false
  | some (.bool b) => b
  | some (.number n) => !n.isZero
  | some (.string s) => !s.isEmpty
  | some (.array _) | some (.object _) => true

/-- Whether the array under a key holds a given string. -/
def containsStr (v : Value) (key needle : String) : Bool :=
  (v.entries key).any (fun item => item.str? == some needle)

end Value

end InfraAudit
