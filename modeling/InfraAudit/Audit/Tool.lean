import InfraAudit.Audit.Cluster
import InfraAudit.Audit.Plan

/-!
The audits as tools: each is called by its name with a value as arguments.
-/
namespace InfraAudit

open Record

/-- A tool. One that is known need not be supported. -/
structure Tool where
  name : String
  description : String
  supported : Bool
  deriving DecidableEq, Repr

namespace Tool

/-- The tools. -/
def all : List Tool :=
  [⟨"explainPlan", "Analyzes Terraform plans and provides a summary with risk assessment", true⟩,
    ⟨"validateK8s",
      "Validates Kubernetes manifests and Helm chart templates for security and best practices", true⟩,
    ⟨"hardening", "Generates remediation patches for findings", false⟩,
    ⟨"costDelta", "Estimates the monthly cost change of a plan", false⟩]

/-- A tool as a value. -/
def encode (t : Tool) : Value :=
  .object
    [("name", .string t.name), ("description", .string t.description), ("supported", .bool t.supported)]

/-- Decodes the arguments of a tool; no arguments are an empty object. -/
def decodeArgs {α : Type} (name : String) (decode : Decoder α) (args : Value) : Except AuditError α :=
  (decode (if args.isNull then .object [] else args)).mapError fun e =>
    .invalidInput (name ++ ": " ++ e.message)

/-- Calls the tool of a name at a time. The result has its keys in order. -/
def call (fs : FileSystem) (c : Config) (now : String) (name : String) (args : Value) :
    Except AuditError Value :=
  match name with
  | "explainPlan" => do
    let request ← decodeArgs name PlanRequest.decode args
    return (← explainPlan fs c now request).encode.sortKeys
  | "validateK8s" => do
    let request ← decodeArgs name ClusterRequest.decode args
    return (← validateManifests fs c now request).encode.sortKeys
  | _ =>
    if (all.map Tool.name).contains name then .error (.unsupportedTool name)
    else .error (.unknownTool name)

end Tool

end InfraAudit
