import InfraAudit.Plan.Resource

/-!
Drift: the attributes that updates change.

For every resource that is classified as an update, the top-level attributes of the
states before and after it are compared, a missing attribute counting as null.
-/
namespace InfraAudit.Plan

/-- An attribute that differs between the states of a resource. -/
structure DriftDetail where
  address : String
  field : String
  before : Value
  after : Value

/-- The differing attributes of all updated resources. -/
structure Drift where
  changedResources : Nat
  details : List DriftDetail

/-- The fields of a state; a state that is not an object has none. -/
def stateFields (state : Option Value) : Fields := (state.bind Value.fields?).getD []

/-- Puts a key at its place in an ordered list of distinct keys. -/
def insertKey (key : String) : List String → List String
  | [] => [key]
  | k :: rest =>
    if key < k then key :: k :: rest
    else if key = k then k :: rest
    else k :: insertKey key rest

/-- The keys of two lists of fields, in order and each once. -/
def mergedKeys (a b : Fields) : List String :=
  ((a ++ b).map Prod.fst).foldl (fun keys k => insertKey k keys) []

/-- The value of a field, null when it is missing. -/
def fieldOrNull (fields : Fields) (key : String) : Value := (fields.lookup key).getD .null

/-- The attribute of a resource under a key, when its states differ there. -/
def DriftDetail.of? (address : String) (before after : Fields) (key : String) : Option DriftDetail :=
  let old := fieldOrNull before key
  let new := fieldOrNull after key
  if old == new then none else some { address, field := key, before := old, after := new }

/-- The attributes in which the states of a resource differ, in the order of their
    keys. -/
def Resource.drift (r : Resource) : List DriftDetail :=
  let before := stateFields r.before
  let after := stateFields r.after
  (mergedKeys before after).filterMap (DriftDetail.of? r.address before after)

/-- The drift of a plan. -/
def drift (p : Plan) : Drift :=
  let details := (p.byAction .update).map Resource.drift
  { changedResources := details.countP (fun ds => !ds.isEmpty)
    details := details.flatten }

/-! ### Drift as a value -/

/-- An attribute as a value. -/
def DriftDetail.encode (d : DriftDetail) : Value :=
  .object
    [("addr", .string d.address), ("field", .string d.field), ("before", d.before), ("after", d.after)]

/-- A drift as a value. -/
def Drift.encode (d : Drift) : Value :=
  .object
    [("changedResources", Record.encodeNat d.changedResources),
      ("details", Record.encodeList DriftDetail.encode d.details)]

/-- The shape of an attribute. -/
def DriftDetail.shape : Record.Shape := ⟨"DriftDetail", 4⟩

open Record in
/-- Decodes an attribute. -/
def DriftDetail.decode : Decoder DriftDetail :=
  record shape fun s =>
    (fun address field before after => { address, field, before, after })
      <$> s.field shape 0 "addr" string .required
      <*> s.field shape 1 "field" string .required
      <*> s.field shape 2 "before" any .required
      <*> s.field shape 3 "after" any .required

/-- The shape of a drift. -/
def Drift.shape : Record.Shape := ⟨"DriftReport", 2⟩

open Record in
/-- Decodes a drift. -/
def Drift.decode : Decoder Drift :=
  record shape fun s =>
    (fun changedResources details => { changedResources, details })
      <$> s.field shape 0 "changedResources" natural .required
      <*> s.field shape 1 "details" (list DriftDetail.decode) .required

end InfraAudit.Plan
