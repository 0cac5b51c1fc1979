import InfraAudit.Cluster.Workload

/-!
Rules about the containers of workloads: limits, privileges, users and images.

Each rule names the containers that offend against it.
-/
namespace InfraAudit.Rule.Workload

open Cluster (Container)

/-- The reference of the rules about security standards. -/
def securityStandards : String := "https://kubernetes.io/docs/concepts/security/pod-security-standards/"

/-- The description of a rule about workloads. -/
def workloadInfo (id title description : String) (severity : Severity) (category : RuleCategory)
    (reference : String) : RuleInfo :=
  { id, title, description, severity, category
    provider := none
    resourceTypes := Cluster.workloadKinds
    references := [reference] }

/-- The finding that names the offending containers, if there are any. -/
def report (info : RuleInfo) (t : Target) (description recommendation evidence : String)
    (offends : Container → Bool) (containers : List Container) : Option Finding :=
  let names := (containers.filter offends).map (·.name)
  if names.isEmpty then none
  else
    some <| (info.finding t description recommendation).withEvidence
      (evidence ++ ": " ++ String.intercalate ", " names)

/-! ### Limits -/

/-- The description of the rule about limits. -/
def noLimitsInfo : RuleInfo :=
  workloadInfo "container-no-limits" "Missing Resource Limits"
    "Containers should have resource limits defined" .high .bestPractice
    "https://kubernetes.io/docs/concepts/configuration/manage-resources-containers/"

/-- Containers without limits are reported. -/
def noLimits : Rule :=
  { info := noLimitsInfo
    evaluate := fun t => do
      let containers ← Cluster.containers t.resource
      return report noLimitsInfo t "Containers are missing resource limits"
        "Add resource limits (CPU and memory) to prevent resource exhaustion"
        "Containers without limits" (fun c => !c.hasLimits) containers }

/-! ### Privilege escalation -/

/-- The description of the rule about privilege escalation. -/
def privilegeEscalationInfo : RuleInfo :=
  workloadInfo "container-priv-escalation" "Privilege Escalation Allowed"
    "Containers should not allow privilege escalation" .crit .security securityStandards

/-- Containers that allow privilege escalation are reported. -/
def privilegeEscalation : Rule :=
  { info := privilegeEscalationInfo
    evaluate := fun t => do
      let containers ← Cluster.containers t.resource
      return report privilegeEscalationInfo t "Containers allow privilege escalation"
        "Set allowPrivilegeEscalation to false in securityContext"
        "Containers with allowPrivilegeEscalation" Container.allowsPrivilegeEscalation containers }

/-! ### Root users -/

/-- The description of the rule about root users. -/
def runAsRootInfo : RuleInfo :=
  workloadInfo "container-run-as-root" "Running as Root"
    "Containers should not run as root user" .high .security securityStandards

/-- Containers that may run as root are reported. -/
def runAsRoot : Rule :=
  { info := runAsRootInfo
    evaluate := fun t => do
      let containers ← Cluster.containers t.resource
      let pod ← Cluster.podSecurityContext t.resource
      return report runAsRootInfo t "Containers may be running as root user"
        "Set runAsNonRoot to true in securityContext or specify a non-root runAsUser"
        "Containers without runAsNonRoot=true"
        (fun c => c.effectiveRunAsNonRoot pod != some true) containers }

/-! ### Images -/

/-- The description of the rule about images. -/
def latestTagInfo : RuleInfo :=
  workloadInfo "container-latest-tag" "Using Latest Image Tag"
    "Containers should not use :latest tag" .med .bestPractice
    "https://kubernetes.io/docs/concepts/containers/images/#image-names"

/-- Containers whose image is not pinned to a version are reported. -/
def latestTag : Rule :=
  { info := latestTagInfo
    evaluate := fun t => do
      let containers ← Cluster.containers t.resource
      return report latestTagInfo t "Containers are using :latest or untagged images"
        "Use specific version tags for better reproducibility and security"
        "Containers with :latest tag" Container.usesLatestTag containers }

end InfraAudit.Rule.Workload
