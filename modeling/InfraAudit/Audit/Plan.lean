import InfraAudit.Audit.Policy
import InfraAudit.Plan.Drift
import InfraAudit.Report.Markdown
import InfraAudit.Risk.Triage

/-!
Audits of plans.

The planned states of the selected resources are evaluated by the rules of a policy;
a full audit also analyzes their risks and lists the drift of the plan.
-/
namespace InfraAudit

open Record

/-- A cloud whose resources may be selected. -/
inductive Cloud where
  | aws
  | gcp
  | azure
  deriving DecidableEq, Repr

namespace Cloud

/-- The names of the clouds, each followed by its other name. -/
def names : List (String × Cloud) :=
  [("aws", .aws), ("gcp", .gcp), ("google", .gcp), ("azure", .azure), ("azurerm", .azure)]

/-- The short name of the provider of a cloud. -/
def provider : Cloud → String
  | .aws => "aws"
  | .gcp => "google"
  | .azure => "azurerm"

end Cloud

/-- A request for the audit of a plan. -/
structure PlanRequest where
  workspace : String
  /-- The file of the plan, if it is not the one of the workspace. -/
  planPath : Option String
  cloud : Option Cloud
  policySet : Option String
  /-- The depth, if it is not that of the configuration. -/
  depth : Option Depth
  deriving DecidableEq, Repr

namespace PlanRequest

/-- The name of the plan's file in a workspace. -/
def defaultFile : String := "tfplan.json"

/-- The file of the plan. -/
def planFile (r : PlanRequest) : String := r.planPath.getD (Path.join r.workspace defaultFile)

/-- The shape of a request. -/
def shape : Shape := ⟨"ExplainPlanInput", 5⟩

/-- Decodes a request. -/
def decode : Decoder PlanRequest :=
  record shape fun s =>
    PlanRequest.mk
      <$> s.field shape 0 "workspace" pathText .required
      <*> s.field shape 1 "planPath" (optional pathText) (.unset none)
      <*> s.field shape 2 "cloud" (optional (enumeration Cloud.names)) (.unset none)
      <*> s.field shape 3 "policySet" (optional string) (.unset none)
      <*> s.field shape 4 "depth" (optional (enumeration Depth.names)) (.unset none)

end PlanRequest

/-- A changed resource as a report lists it; `path` is the file of the plan. -/
structure PlanEntry where
  resourceType : String
  name : String
  action : Plan.Action
  path : String
  address : String
  deriving DecidableEq, Repr

namespace PlanEntry

/-- The entry of a resource of the plan in a file. -/
def ofResource (path : String) (r : Plan.Resource) : PlanEntry :=
  { resourceType := r.resourceType, name := r.name, action := r.action, path, address := r.address }

/-- An entry as a value. -/
def encode (e : PlanEntry) : Value :=
  .object
    [("type", .string e.resourceType),
      ("name", .string e.name),
      ("action", e.action.encode),
      ("path", .string e.path),
      ("addr", .string e.address)]

/-- The shape of an entry. -/
def shape : Shape := ⟨"PlanResource", 5⟩

/-- Decodes an entry. -/
def decode : Decoder PlanEntry :=
  record shape fun s =>
    PlanEntry.mk
      <$> s.field shape 0 "type" string .required
      <*> s.field shape 1 "name" string .required
      <*> s.field shape 2 "action" Plan.Action.decode .required
      <*> s.field shape 3 "path" string .required
      <*> s.field shape 4 "addr" string .required

end PlanEntry

/-- The audit of a plan. -/
structure PlanAudit where
  summary : Plan.Summary
  entries : List PlanEntry
  risks : List Finding
  ruleFailures : List RuleFailure
  analyses : Option (List Risk.Analysis)
  drift : Option Plan.Drift
  /-- The report in Markdown. -/
  evidence : String
  /-- The time at which the audit was made, as it is written. -/
  analyzedAt : String

namespace PlanAudit

/-- The summary of a plan in words. -/
def summaryText (s : Plan.Summary) : String :=
  "Plan: " ++ toString s.adds ++ " to add, " ++ toString s.changes ++ " to change, " ++
    toString s.destroys ++ " to destroy."

/-- What reports show of an audit. -/
def view (a : PlanAudit) : Report.View :=
  { title := "Terraform plan"
    summary :=
      [("Summary", summaryText a.summary),
        ("Resources", toString a.entries.length),
        ("Risks", toString a.risks.length)]
    findings := a.risks
    ruleFailures := a.ruleFailures
    diagnostics := []
    analyses := a.analyses.getD []
    drift := a.drift }

/-- Reports show neither the evidence of an audit nor its time. -/
theorem view_with (a : PlanAudit) (evidence analyzedAt : String) :
    { a with evidence, analyzedAt }.view = a.view := rfl

/-- An audit with the report on itself as its evidence. -/
def withReport (a : PlanAudit) : PlanAudit := { a with evidence := Report.Markdown.render a.view }

@[simp]
theorem view_withReport (a : PlanAudit) : a.withReport.view = a.view := a.view_with ..

/-- The evidence is what the report on the audit is with it. -/
theorem evidence_withReport (a : PlanAudit) : a.withReport.evidence = Report.Markdown.render a.withReport.view := by
  rw [view_withReport, withReport]

/-- An audit as a value. -/
def encode (a : PlanAudit) : Value :=
  .object (
    [("summary", .string (summaryText a.summary)),
      ("adds", encodeNat a.summary.adds),
      ("changes", encodeNat a.summary.changes),
      ("destroys", encodeNat a.summary.destroys),
      ("resources", encodeList PlanEntry.encode a.entries),
      ("risks", encodeList Finding.encode a.risks)] ++
    fieldUnlessEmpty "ruleFailures" RuleFailure.encode a.ruleFailures ++
    fieldIfSome "analyses" (encodeList Risk.Analysis.encode) a.analyses ++
    fieldIfSome "drift" Plan.Drift.encode a.drift ++
    [("evidenceMd", .string a.evidence), ("analyzedAt", .string a.analyzedAt)])

end PlanAudit

/-! ### Making audits -/

/-- The target of a resource: its planned state, under the resource's address. -/
def Plan.Resource.target? (r : Plan.Resource) : Option Target :=
  r.plannedState?.map fun state =>
    { resource := state, resourceType := r.resourceType, name := r.name, path := some r.address }

/-- The resources of a plan that a request selects. -/
def PlanRequest.select (r : PlanRequest) (p : Plan) : List Plan.Resource :=
  match r.cloud with
  | some cloud => p.byProvider cloud.provider
  | none => p.resources

/-- The audit of a plan by a policy, made at a time. Its report is made from all the rest. -/
def PlanRequest.audit (r : PlanRequest) (run : PolicyRun) (depth : Depth) (now : String) (p : Plan) : PlanAudit :=
  let selected := r.select p
  let evaluation := run.evaluate (selected.filterMap Plan.Resource.target?)
  PlanAudit.withReport
    { summary := p.summary
      entries := (selected.filter (·.action != .noOp)).map (PlanEntry.ofResource r.planFile)
      risks := evaluation.findings
      ruleFailures := evaluation.failures
      analyses := if depth = .full then some (Risk.analyzeAll selected) else none
      drift := if depth = .full then some p.drift else none
      evidence := ""
      analyzedAt := now }

/-- The audit of the plan that a request names, made at a time. -/
def explainPlan (fs : FileSystem) (c : Config) (now : String) (r : PlanRequest) : Except AuditError PlanAudit := do
  let text ← (fs.readText r.planFile).mapError .file
  let plan ← (Plan.parse text).mapError .plan
  let run ← c.policyRun r.policySet
  return r.audit run (r.depth.getD c.depth) now plan

end InfraAudit
