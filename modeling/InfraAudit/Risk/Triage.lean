import InfraAudit.Plan.Resource
import InfraAudit.Risk.Aws
import InfraAudit.Risk.Azure
import InfraAudit.Risk.Google

/-!
The analysis of planned resources by the concerns of their providers.
-/
namespace InfraAudit.Risk

/-- The concerns about a resource of a provider, given by the provider's short name. -/
def concernsOf (provider resourceType : String) (state : Value) : List Concern :=
  match provider with
  | "aws" => Aws.concerns resourceType state
  | "google" => Google.concerns resourceType state
  | "azurerm" => Azure.concerns resourceType state
  | _ => []

/-- The analysis of a resource. Without a planned state there are no concerns. -/
def analyze (r : Plan.Resource) : Analysis :=
  let concerns := r.plannedState?.elim [] (concernsOf r.providerShortName r.resourceType)
  concerns.foldl Analysis.flag (.clear r.address r.resourceType)

/-- The analyses of resources, in their order. -/
def analyzeAll (rs : List Plan.Resource) : List Analysis := rs.map analyze

end InfraAudit.Risk
