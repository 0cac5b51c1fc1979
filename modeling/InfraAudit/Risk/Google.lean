import InfraAudit.Risk.Basic

/-!
Concerns about the resources of the provider `google`.
-/
namespace InfraAudit.Risk.Google

/-- The members that stand for everyone. -/
def publicMembers : List String := ["allUsers", "allAuthenticatedUsers"]

/-- Whether a bucket is bound to everyone. -/
def isPublicBucket (bucket : Value) : Bool :=
  (bucket.entries "iam_binding").any (listsAny · "members" publicMembers)

/-- The concern about public buckets. -/
def publicBucket : Concern :=
  ⟨"GCS bucket has public IAM bindings", "Remove public IAM bindings and use specific principals", .high⟩

/-- The concern about firewalls that let in traffic from anywhere. -/
def openFirewall : Concern :=
  ⟨"GCP firewall rule allows traffic from anywhere",
    "Restrict source ranges to specific IP blocks", .high⟩

/-- The concerns about the planned state of a resource. -/
def concerns (resourceType : String) (state : Value) : List Concern :=
  match resourceType with
  | "google_storage_bucket" => concernIf (isPublicBucket state) publicBucket
  | "google_compute_firewall" => concernIf (listsAny state "source_ranges" ["0.0.0.0/0"]) openFirewall
  | _ => []

end InfraAudit.Risk.Google
