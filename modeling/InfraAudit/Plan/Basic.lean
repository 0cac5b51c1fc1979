import InfraAudit.Plan.Action
import InfraAudit.Validation

/-!
Plans and how they are read from documents.

A document is a plan when it has the required fields, each of the right type, and
the addresses of its resource changes are distinct. All offending fields are
reported, and a plan is built only when there is none.
-/
namespace InfraAudit

/-- What happens to a resource. The states before and after it are open. -/
structure Plan.Change where
  actions : List Plan.ChangeAction
  before : Option Value
  after : Option Value
  afterUnknown : Option Value
  beforeSensitive : Option Value
  afterSensitive : Option Value

/-- The change of a resource at an address. -/
structure Plan.ResourceChange where
  address : String
  moduleAddress : Option String
  mode : Plan.Mode
  resourceType : String
  name : String
  providerName : String
  change : Plan.Change

/-- A plan. -/
structure Plan where
  formatVersion : String
  terraformVersion : String
  variableValues : Option Fields
  plannedValues : Option Fields
  resourceChanges : List Plan.ResourceChange
  configuration : Option Fields
  priorState : Option Fields

namespace Plan

/-! ### Changes -/

/-- Whether a change has a raw action. -/
def Change.has (c : Change) (a : ChangeAction) : Bool := c.actions.contains a

/-- Checks an item of a list of actions. -/
def checkAction (path : String) (i : Nat) (v : Value) : Checked (Option ChangeAction) :=
  match ChangeAction.ofValue? v with
  | some a => pure (some a)
  | none => .issue ⟨FieldPath.item path i, "unknown action " ++ v.compact⟩

/-- Checks that a state is null where the known actions are exactly the given one. -/
def checkEmptyState (path key : String) (only : ChangeAction) (known : List ChangeAction)
    (state : Option Value) : Checked Unit :=
  .require (!(known == [only] && state.isSome))
    ⟨FieldPath.field path key, "must be null for a " ++ only.name ++ "-only change"⟩

/-- Checks a change. Creation starts from nothing, and deletion ends in nothing. -/
def Change.check (path : String) (v : Value) : Checked (Option Change) := do
  let raw ← v.requireArray "actions" path
  let actions ← Checked.forItems (checkAction (FieldPath.field path "actions")) 0 (raw.getD [])
  let known := actions.filterMap id
  let before := v.present? "before"
  let after := v.present? "after"
  checkEmptyState path "before" .create known before
  checkEmptyState path "after" .delete known after
  pure (if raw.isSome && actions.all Option.isSome then
    some
      { actions := known, before, after
        afterUnknown := v.field? "after_unknown"
        beforeSensitive := v.field? "before_sensitive"
        afterSensitive := v.field? "after_sensitive" }
    else none)

/-! ### Resource changes -/

/-- Checks the mode of a resource. -/
def checkMode (path : String) (v : Value) : Checked (Option Mode) :=
  (v.requireStr "mode" path).ifRead fun name =>
    match Mode.parse? name with
    | some mode => pure (some mode)
    | none =>
      .issue ⟨FieldPath.field path "mode", "expected `managed` or `data`, received " ++ Text.ticked name⟩

/-- Checks the change within a resource change. -/
def checkChange (path : String) (v : Value) : Checked (Option Change) :=
  (v.requireObject "change" path).ifRead (Change.check (FieldPath.field path "change"))

/-- Checks a resource change. It is read when all that it requires could be read. -/
def ResourceChange.check (path : String) (v : Value) : Checked (Option ResourceChange) :=
  if v.isObject then do
    let address ← v.requireStr "address" path
    let moduleAddress ← v.optionalStr "module_address" path
    let mode ← checkMode path v
    let resourceType ← v.requireStr "type" path
    let name ← v.requireStr "name" path
    let providerName ← v.requireStr "provider_name" path
    let change ← checkChange path v
    pure (do
      let address ← address
      let mode ← mode
      let resourceType ← resourceType
      let name ← name
      let providerName ← providerName
      let change ← change
      some { address, moduleAddress, mode, resourceType, name, providerName, change })
  else .issue (.mismatch path "object" v)

/-- Checks resource changes from an index on, after those that took some addresses.
    Those that cannot be read are left out and take no address. -/
def checkResourceChanges (taken : List String) (i : Nat) : List Value → Checked (List ResourceChange)
  | [] => pure []
  | v :: rest => do
    let path := FieldPath.item "resource_changes" i
    match ← ResourceChange.check path v with
    | none => checkResourceChanges taken (i + 1) rest
    | some c => do
      .require (!taken.contains c.address)
        ⟨FieldPath.field path "address", "duplicate address " ++ Text.ticked c.address⟩
      let changes ← checkResourceChanges (c.address :: taken) (i + 1) rest
      pure (c :: changes)

/-! ### Plans -/

/-- Checks that an entry of the variables is an object. -/
def checkVariable (entry : String × Value) : Checked Unit :=
  .require entry.2.isObject
    ⟨FieldPath.field "variables" entry.1, "expected object with a `value` field"⟩

/-- Checks the variables. -/
def checkVariables (v : Value) : Checked (Option Fields) := do
  let fields ← v.optionalObject "variables" ""
  let _ ← Checked.forItems (fun _ => checkVariable) 0 (fields.getD [])
  pure fields

/-- Checks the state before the plan, which has versions of its own. -/
def checkPriorState (v : Value) : Checked (Option Fields) := do
  match ← v.optionalObject "prior_state" "" with
  | none => pure none
  | some fields => do
    let _ ← (Value.object fields).requireStr "format_version" "prior_state"
    let _ ← (Value.object fields).requireStr "terraform_version" "prior_state"
    pure (some fields)

/-- Checks the fields of a document. An empty text stands in for a version and an
    empty list for resource changes that cannot be read. -/
def check (v : Value) : Checked Plan := do
  let formatVersion ← v.requireStr "format_version" ""
  let terraformVersion ← v.requireStr "terraform_version" ""
  let variableValues ← checkVariables v
  let plannedValues ← v.optionalObject "planned_values" ""
  let configuration ← v.optionalObject "configuration" ""
  let priorState ← checkPriorState v
  let items ← v.requireArray "resource_changes" ""
  let resourceChanges ← checkResourceChanges [] 0 (items.getD [])
  pure
    { formatVersion := formatVersion.getD ""
      terraformVersion := terraformVersion.getD ""
      variableValues, plannedValues, resourceChanges, configuration, priorState }

/-- The plan that a document is. -/
def ofValue (v : Value) : Except ValidationError Plan :=
  if v.isObject then (check v).finish else .error ⟨[.mismatch "" "object" v]⟩

/-! ### Plans as values -/

open Record in
/-- A change as a value. -/
def Change.encode (c : Change) : Value :=
  .object (
    [("actions", encodeList ChangeAction.encode c.actions),
      ("before", encodeOption id c.before),
      ("after", encodeOption id c.after)] ++
    fieldIfSome "after_unknown" id c.afterUnknown ++
    fieldIfSome "before_sensitive" id c.beforeSensitive ++
    fieldIfSome "after_sensitive" id c.afterSensitive)

open Record in
/-- A resource change as a value. -/
def ResourceChange.encode (c : ResourceChange) : Value :=
  .object (
    [("address", .string c.address)] ++
    fieldIfSome "module_address" Value.string c.moduleAddress ++
    [("mode", .string c.mode.name),
      ("type", .string c.resourceType),
      ("name", .string c.name),
      ("provider_name", .string c.providerName),
      ("change", c.change.encode)])

open Record in
/-- A plan as a value. -/
def encode (p : Plan) : Value :=
  .object (
    [("format_version", .string p.formatVersion), ("terraform_version", .string p.terraformVersion)] ++
    fieldIfSome "variables" Value.object p.variableValues ++
    fieldIfSome "planned_values" Value.object p.plannedValues ++
    [("resource_changes", encodeList ResourceChange.encode p.resourceChanges)] ++
    fieldIfSome "configuration" Value.object p.configuration ++
    fieldIfSome "prior_state" Value.object p.priorState)

end Plan

end InfraAudit
