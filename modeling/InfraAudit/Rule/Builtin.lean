import InfraAudit.Rule.Engine
import InfraAudit.Rule.Network
import InfraAudit.Rule.Storage
import InfraAudit.Rule.Workload

/-!
The built-in rules.
-/
namespace InfraAudit.Rule

/-- The built-in rules, in the order of their evaluation. -/
def builtin : List Rule :=
  [Storage.publicAccess, Storage.noEncryption, Storage.noVersioning,
    Network.openIngress, Network.openEgress, Network.sshOpen,
    Workload.noLimits, Workload.privilegeEscalation, Workload.runAsRoot, Workload.latestTag]

/-- The built-in rule of an id. -/
def builtin? (id : String) : Option Rule := builtin.find? (·.id == id)

end InfraAudit.Rule

namespace InfraAudit

/-- The engine with all built-in rules. -/
def RuleEngine.builtin : RuleEngine := (RuleEngine.empty.registerAll Rule.builtin).1

end InfraAudit
