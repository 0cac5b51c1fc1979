import InfraAudit.Risk.Basic

/-!
Concerns about the resources of the provider `azurerm`.
-/
namespace InfraAudit.Risk.Azure

/-- The addresses that stand for any source. -/
def anySource : List String := ["*", "0.0.0.0/0"]

/-- Whether an account takes secure traffic only; the attribute has two names. -/
def isSecureOnly (account : Value) : Bool :=
  account.isTruthy "https_traffic_only" || account.isTruthy "https_traffic_only_enabled"

/-- Whether a security group has a rule for any source. -/
def isOpenGroup (group : Value) : Bool :=
  (group.entries "security_rule").any fun rule =>
    (rule.fieldStr? "source_address_prefix").any anySource.contains

/-- The concern about accounts that allow old versions of TLS. -/
def weakTls : Concern :=
  ⟨"Azure Storage Account allows weak TLS versions", "Set minimum TLS version to TLS1_2", .medium⟩

/-- The concern about accounts that allow traffic that is not secure. -/
def plainTraffic : Concern :=
  ⟨"Azure Storage Account allows HTTP traffic", "Enable HTTPS-only traffic", .high⟩

/-- The concern about open security groups. -/
def openGroup : Concern :=
  ⟨"Azure NSG rule allows traffic from any source", "Restrict source address prefixes", .high⟩

/-- The concerns about an account. -/
def accountConcerns (account : Value) : List Concern :=
  concernIf (account.fieldStr? "min_tls_version" != some "TLS1_2") weakTls ++
    concernIf (!isSecureOnly account) plainTraffic

/-- The concerns about the planned state of a resource. -/
def concerns (resourceType : String) (state : Value) : List Concern :=
  match resourceType with
  | "azurerm_storage_account" => accountConcerns state
  | "azurerm_network_security_group" => concernIf (isOpenGroup state) openGroup
  | _ => []

end InfraAudit.Risk.Azure
