import InfraAudit.Value

/-!
The tables of a TOML document while it is read.

A table may be defined once. Its header may come after those of the tables in it,
and the keys before the last one of a dotted key make up tables that only dotted
keys of the same section can extend. Values, and so inline tables, cannot be
extended at all.
-/
namespace InfraAudit.Toml

/-- How a table came to be. -/
inductive TableKind where
  /-- By its header. -/
  | defined
  /-- By the header of a table in it. -/
  | implied
  /-- By a dotted key. -/
  | dotted
  deriving DecidableEq, Repr

/-- What stands under a key. -/
inductive Item where
  | value (v : Value)
  | table (kind : TableKind) (entries : List (String × Item))
  /-- A list of tables, each with a header of its own. -/
  | tables (elements : List (List (String × Item)))
  deriving Inhabited

/-- The keys of a table with what stands under them. -/
abbrev Entries := List (String × Item)

/-- Replaces what stands under a key, or adds it. -/
def Entries.set (key : String) (item : Item) : Entries → Entries
  | [] => [(key, item)]
  | (k, i) :: rest => if k = key then (key, item) :: rest else (k, i) :: Entries.set key item rest

/-- Changes the last element of a list. -/
def changeLast? (f : Entries → Option Entries) : List Entries → Option (List Entries)
  | [] => none
  | [es] => (f es).map ([·])
  | es :: rest => (changeLast? f rest).map (es :: ·)

/-- Adds a value under a dotted key, given as the keys before the last one and the
    last one. -/
def Entries.insertDotted? (v : Value) (key : String) : (path : List String) → Entries → Option Entries
  | [], es => if (es.lookup key).isSome then none else some (es.set key (.value v))
  | k :: path, es =>
    match es.lookup k with
    | none => do
      let inner ← Entries.insertDotted? v key path []
      return es.set k (.table .dotted inner)
    | some (.table .dotted inner) => do
      let inner ← Entries.insertDotted? v key path inner
      return es.set k (.table .dotted inner)
    | some (.table .implied inner) => do
      if path.isEmpty then none
      let inner ← Entries.insertDotted? v key path inner
      return es.set k (.table .implied inner)
    | _ => none

/-- Changes the table under the keys of a header; of a list of tables the last one
    is meant. -/
def Entries.change? (f : Entries → Option Entries) : (path : List String) → Entries → Option Entries
  | [], es => f es
  | k :: path, es =>
    match es.lookup k with
    | none => do return es.set k (.table .implied (← Entries.change? f path []))
    | some (.table kind inner) => do return es.set k (.table kind (← Entries.change? f path inner))
    | some (.tables elements) => do
      return es.set k (.tables (← changeLast? (Entries.change? f path) elements))
    | some (.value _) => none

/-- Defines the table of a header. -/
def Entries.define? (key : String) (es : Entries) : Option Entries :=
  match es.lookup key with
  | none => some (es.set key (.table .defined []))
  | some (.table .implied inner) => some (es.set key (.table .defined inner))
  | _ => none

/-- Adds a table to the list of a header. -/
def Entries.defineElement? (key : String) (es : Entries) : Option Entries :=
  match es.lookup key with
  | none => some (es.set key (.tables [[]]))
  | some (.tables elements) => some (es.set key (.tables (elements ++ [[]])))
  | _ => none

mutual

/-- What stands under a key, as a value. -/
def Item.toValue : Item → Value
  | .value v => v
  | .table _ entries => Value.ofFields (fieldsOf entries)
  | .tables elements => .array (valuesOf elements)

/-- The entries of a table, as fields. -/
def fieldsOf : List (String × Item) → Fields
  | [] => []
  | (k, i) :: rest => (k, i.toValue) :: fieldsOf rest

/-- Tables as values. -/
def valuesOf : List (List (String × Item)) → List Value
  | [] => []
  | es :: rest => Value.ofFields (fieldsOf es) :: valuesOf rest

end

end InfraAudit.Toml
