import InfraAudit.Plan.Resource
import InfraAudit.Proofs.Rule.Images

/-!
Selection by provider. A query names a provider by its address or by the short name in which
the address ends (`Names`). The short name of a query that is an address counts as well, so
that addresses of other namespaces are taken for it when they end alike (`Confuses`), and
only then (`byProvider_exact_iff`).
-/
namespace InfraAudit.Plan

open Cluster (IsLastComponent exists_lastComponent)

section
variable {query address : String}

/-! ### Short names -/

theorem shortProvider_of_isLastComponent {last : List Char} (component : IsLastComponent last address.toList) :
    Resource.shortProvider address = String.ofList last := by
  obtain ⟨plain, split⟩ := component
  have all : ∀ c ∈ last.reverse, (c != '/') = true := by
    intro c member
    exact bne_iff_ne.mpr (fun slash => plain (slash ▸ List.mem_reverse.mp member))
  unfold Resource.shortProvider
  rcases split with whole | ⟨path, split⟩
  · rw [whole, List.takeWhile_eq_self_iff.mpr all, List.reverse_reverse]
  · rw [split, List.reverse_append, List.reverse_cons, List.append_assoc, List.takeWhile_append_of_pos all]
    simp

theorem isLastComponent_iff {name : String} :
    IsLastComponent name.toList address.toList ↔ Resource.shortProvider address = name := by
  constructor
  · intro component
    rw [shortProvider_of_isLastComponent component, String.ofList_toList]
  · rintro rfl
    obtain ⟨last, component⟩ := exists_lastComponent address.toList
    rw [shortProvider_of_isLastComponent component, String.toList_ofList]
    exact component

theorem shortProvider_of_plain (plain : '/' ∉ query.toList) : Resource.shortProvider query = query :=
  isLastComponent_iff.mp ⟨plain, .inl rfl⟩

/-! ### Queries -/

/-- A query names the provider of an address: by the address, or by what stands after the
    last slash of it. -/
def Names (query address : String) : Prop := address = query ∨ IsLastComponent query.toList address.toList

/-- A query with a slash and another address have the same text after their last slashes. -/
def Confuses (query address : String) : Prop :=
  address ≠ query ∧ '/' ∈ query.toList ∧
    ∃ last, IsLastComponent last query.toList ∧ IsLastComponent last address.toList

theorem names_iff : Names query address ↔ address = query ∨ Resource.shortProvider address = query := by
  rw [Names, isLastComponent_iff]

theorem confuses_iff :
    Confuses query address ↔
      address ≠ query ∧ '/' ∈ query.toList ∧ Resource.shortProvider address = Resource.shortProvider query := by
  refine and_congr_right' (and_congr_right' ?_)
  constructor
  · rintro ⟨last, inQuery, inAddress⟩
    rw [shortProvider_of_isLastComponent inQuery, shortProvider_of_isLastComponent inAddress]
  · intro same
    refine ⟨(Resource.shortProvider query).toList, isLastComponent_iff.mpr rfl, ?_⟩
    exact isLastComponent_iff.mpr same

instance : Decidable (Names query address) := decidable_of_iff _ names_iff.symm

instance : Decidable (Confuses query address) := decidable_of_iff _ confuses_iff.symm

theorem not_names_of_confuses (confuses : Confuses query address) : ¬ Names query address := by
  obtain ⟨other, slash, _⟩ := confuses
  rintro (same | ⟨plain, _⟩)
  · exact other same
  · exact plain slash

/-- The test for a provider takes an address that the query names or confuses with it. -/
theorem takes_iff : (address == query || Resource.shortProvider address == Resource.shortProvider query) = true ↔
    Names query address ∨ Confuses query address := by
  rw [Bool.or_eq_true, beq_iff_eq, beq_iff_eq, names_iff, confuses_iff]
  by_cases same : address = query
  · simp [same]
  by_cases slash : '/' ∈ query.toList
  · have differs : Resource.shortProvider address ≠ query := by
      intro short
      exact (isLastComponent_iff.mpr short).1 slash
    simp [same, slash, differs]
  · simp [same, slash, shortProvider_of_plain slash]

end

section
variable (p : Plan) (query : String)

theorem byProvider_eq :
    p.byProvider query = p.resources.filter (fun r => decide (Names query r.provider ∨ Confuses query r.provider)) := by
  apply List.filter_congr
  intro r _
  rw [Bool.eq_iff_iff, decide_eq_true_iff]
  exact takes_iff

/-- A query selects, in the order of the plan, the resources of the providers that it names
    and of those that it confuses with them. These are the former alone exactly when the plan
    has no resource of the latter. -/
theorem byProvider_exact_iff :
    p.byProvider query = p.resources.filter (fun r => decide (Names query r.provider ∨ Confuses query r.provider)) ∧
    (p.byProvider query = p.resources.filter (fun r => decide (Names query r.provider)) ↔
      ∀ r ∈ p.resources, ¬ Confuses query r.provider) := by
  refine ⟨p.byProvider_eq query, ?_⟩
  rw [byProvider_eq]
  constructor
  · intro same r member confuses
    have selected : r ∈ p.resources.filter (fun r => decide (Names query r.provider ∨ Confuses query r.provider)) :=
      List.mem_filter.mpr ⟨member, decide_eq_true (.inr confuses)⟩
    rw [same, List.mem_filter, decide_eq_true_iff] at selected
    exact not_names_of_confuses confuses selected.2
  · intro apart
    apply List.filter_congr
    intro r member
    simp [apart r member]

end

/-- A resource change of a provider. -/
def changeOf (address provider : String) : Value :=
  .object
    [("address", .string address), ("mode", .string "managed"), ("type", .string "aws_s3_bucket"),
      ("name", .string "logs"), ("provider_name", .string provider),
      ("change", .object [("actions", .array [.string "create"])])]

/-- The address of one provider selects the resource of another one, from another namespace. -/
theorem byProvider_other_namespace :
    ∃ p, Plan.ofValue (.object
        [("format_version", .string "1.2"), ("terraform_version", .string "1.6.0"),
          ("resource_changes", .array
            [changeOf "aws_s3_bucket.logs" "registry.terraform.io/hashicorp/aws",
              changeOf "aws_s3_bucket.mirror" "registry.terraform.io/acme/aws"])]) = .ok p ∧
      (p.byProvider "registry.terraform.io/acme/aws").map (·.address) =
        ["aws_s3_bucket.logs", "aws_s3_bucket.mirror"] ∧
      (p.resources.filter (fun r => decide (Names "registry.terraform.io/acme/aws" r.provider))).map (·.address) =
        ["aws_s3_bucket.mirror"] :=
  ⟨_, rfl, by decide, by decide⟩

end InfraAudit.Plan
