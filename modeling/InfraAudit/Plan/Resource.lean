import InfraAudit.Plan.Basic

/-!
The resources of a plan, each with its classified action, and the ways to select
and to count them.
-/
namespace InfraAudit.Plan

/-- A resource as a plan changes it. -/
structure Resource where
  address : String
  resourceType : String
  name : String
  provider : String
  action : Action
  before : Option Value
  after : Option Value

namespace Resource

/-- The resource of a change. -/
def ofChange (c : ResourceChange) : Resource :=
  { address := c.address
    resourceType := c.resourceType
    name := c.name
    provider := c.providerName
    action := Action.classify c.change.actions
    before := c.change.before
    after := c.change.after }

/-- The part of a provider's address after its last slash. -/
def shortProvider (provider : String) : String :=
  String.ofList (provider.toList.reverse.takeWhile (· != '/')).reverse

/-- The short name of the resource's provider. -/
def providerShortName (r : Resource) : String := shortProvider r.provider

/-- The state after the change, if there is one. -/
def plannedState? (r : Resource) : Option Value := r.after.filter (fun v => !v.isNull)

open Record in
/-- A resource as a value. -/
def encode (r : Resource) : Value :=
  .object
    [("address", .string r.address),
      ("type", .string r.resourceType),
      ("name", .string r.name),
      ("provider", .string r.provider),
      ("action", r.action.encode),
      ("before", encodeOption id r.before),
      ("after", encodeOption id r.after)]

/-- The shape of a resource. -/
def shape : Record.Shape := ⟨"ResourceInfo", 7⟩

open Record in
/-- Decodes a resource. -/
def decode : Decoder Resource :=
  record shape fun s =>
    (fun address resourceType name provider action before after =>
        { address, resourceType, name, provider, action, before, after })
      <$> s.field shape 0 "address" string .required
      <*> s.field shape 1 "type" string .required
      <*> s.field shape 2 "name" string .required
      <*> s.field shape 3 "provider" string .required
      <*> s.field shape 4 "action" Action.decode .required
      <*> s.field shape 5 "before" (optional any) (.unset none)
      <*> s.field shape 6 "after" (optional any) (.unset none)

end Resource

/-! ### Selections -/

/-- The resources of a plan, in the plan's order. -/
def resources (p : Plan) : List Resource := p.resourceChanges.map Resource.ofChange

/-- The resources that are classified by an action. -/
def byAction (p : Plan) (a : Action) : List Resource := p.resources.filter (·.action == a)

/-- The resources of a type. -/
def byType (p : Plan) (resourceType : String) : List Resource :=
  p.resources.filter (·.resourceType == resourceType)

/-- The resources of a provider, given by its address or a short name: those of
    that very address, and those with the same short name. -/
def byProvider (p : Plan) (provider : String) : List Resource :=
  p.resources.filter fun r =>
    r.provider == provider || r.providerShortName == Resource.shortProvider provider

/-! ### Summary -/

/-- How many resources a plan has and how many it adds, changes and destroys. -/
structure Summary where
  adds : Nat
  changes : Nat
  destroys : Nat
  totalResources : Nat
  deriving DecidableEq, Repr

/-- The number of changes with a raw action. -/
def countOf (p : Plan) (a : ChangeAction) : Nat := p.resourceChanges.countP (·.change.has a)

/-- The summary of a plan. Every raw action counts for itself, so that a
    replacement adds and destroys. -/
def summary (p : Plan) : Summary :=
  { adds := p.countOf .create
    changes := p.countOf .update
    destroys := p.countOf .delete
    totalResources := p.resourceChanges.length }

/-- A summary as a value. -/
def Summary.encode (s : Summary) : Value :=
  .object
    [("adds", Record.encodeNat s.adds),
      ("changes", Record.encodeNat s.changes),
      ("destroys", Record.encodeNat s.destroys),
      ("totalResources", Record.encodeNat s.totalResources)]

/-- The shape of a summary. -/
def Summary.shape : Record.Shape := ⟨"PlanSummary", 4⟩

open Record in
/-- Decodes a summary. -/
def Summary.decode : Decoder Summary :=
  record shape fun s =>
    Summary.mk
      <$> s.field shape 0 "adds" natural .required
      <*> s.field shape 1 "changes" natural .required
      <*> s.field shape 2 "destroys" natural .required
      <*> s.field shape 3 "totalResources" natural .required

end InfraAudit.Plan
