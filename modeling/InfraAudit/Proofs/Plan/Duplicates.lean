import InfraAudit.Proofs.Plan.Violations

/-!
Which repeated addresses are reported. A document with a repeated address is always
refused, but the address is reported only between two resource changes that could be
read: one that could not be takes no address, and is not compared with the others.
-/
namespace InfraAudit.Plan

variable {v a b : Value} {i : FieldIssue} {items : List Value}

/-- The path of the address of a resource change. -/
abbrev addressPath (n : Nat) : String := FieldPath.field (changePath n) "address"

theorem addressPath_inj {m n : Nat} : addressPath m = addressPath n ↔ m = n :=
  FieldPath.field_item_inj.trans (and_iff_left rfl)

theorem exists_error_of_not_conforms (other : ¬ Conforms v) : ∃ e, ofValue v = .error e := by
  cases read : ofValue v with
  | error e => exact ⟨e, rfl⟩
  | ok p =>
    obtain ⟨object, clean, _⟩ := (ofValue_eq_ok_iff v p).mp read
    exact absurd (conforms_of_check object clean) other

/-- The address of a resource change has an issue of its own only where it is no string. -/
theorem lacks_address_of_mem_issues {m n : Nat} (found : i ∈ (ResourceChange.check (changePath m) v).issues)
    (there : i.path = addressPath n) : m = n ∧ v.Lacks "string" "address" (changePath m) i := by
  rcases ResourceChange.issue_cases found with whole | lacks | ⟨key, one, path⟩ | ⟨w, _, inner⟩
  · rw [whole] at there
    exact (FieldPath.item_ne_field _ _ _ _ there).elim
  · exact ⟨addressPath_inj.mp (lacks.path.symm.trans there), lacks⟩
  · rw [path, FieldPath.field_item_inj] at there
    exact absurd (there.2 ▸ one) (by decide)
  · obtain ⟨key, path⟩ := Change.path_of_mem_issues inner
    rw [path, FieldPath.field_field _ (by decide), FieldPath.field_item_inj] at there
    exact absurd (congrArg String.toList there.2) (by simp [FieldPath.field])

/-- A document that repeats an address is refused. The repeated address is reported
    exactly when its resource change and one with the same address before it can be
    read. -/
theorem repeated_address_reported_iff {m n : Nat} {address : String}
    (listed : v.field? "resource_changes" = some (.array items)) (earlier : m < n) (first : items[m]? = some a)
    (second : items[n]? = some b) (addressed : a.field? "address" = some (.string address))
    (same : b.field? "address" = some (.string address)) :
    ∃ e, ofValue v = .error e ∧
      (addressPath n ∈ e.paths ↔
        ResourceChange.Takes b address ∧ ∃ before ∈ items.take n, ResourceChange.Takes before address) := by
  obtain ⟨e, refused⟩ :=
    exists_error_of_not_conforms (Violation.duplicate listed earlier first second addressed same).not_conforms
  refine ⟨e, refused, ?_⟩
  rw [mem_paths_iff]
  constructor
  · rintro ⟨i, found, there⟩
    rw [mem_issues_into refused there, Value.entries_of_field? listed] at found
    obtain ⟨k, item, held, own | ⟨taken, takes, before, rfl⟩⟩ := found
    · obtain ⟨rfl, lacks⟩ := lacks_address_of_mem_issues own there
      cases second.symm.trans held
      exact (lacks.typeName_ne same rfl).elim
    · obtain rfl := addressPath_inj.mp there
      cases second.symm.trans held
      cases takes.address.symm.trans same
      exact ⟨takes, before⟩
  · rintro ⟨takes, before⟩
    have there : (duplicateIssue n address).path = addressPath n := rfl
    refine ⟨duplicateIssue n address, ?_, there⟩
    rw [mem_issues_into refused there, Value.entries_of_field? listed]
    exact ⟨n, b, second, .inr ⟨address, takes, before, rfl⟩⟩

/-- The creation of a bucket of a mode. -/
def bucketCreation (mode : String) : Value :=
  .object
    [("address", .string "aws_s3_bucket.logs"), ("mode", .string mode), ("type", .string "aws_s3_bucket"),
      ("name", .string "logs"), ("provider_name", .string "registry.terraform.io/hashicorp/aws"),
      ("change", .object [("actions", .array [.string "create"])])]

/-- A plan that creates a bucket twice at one address. -/
def repeatedPlan (mode : String) : Value :=
  .object
    [("format_version", .string "1.2"), ("terraform_version", .string "1.6.0"),
      ("resource_changes", .array [bucketCreation mode, bucketCreation "managed"])]

/-- A repeated address is not reported after a resource change of an unknown mode. -/
theorem repeated_address_lost :
    (bucketCreation "external").field? "address" = (bucketCreation "managed").field? "address" ∧
    ofValue (repeatedPlan "external") =
      .error ⟨[⟨"resource_changes[0].mode", "expected `managed` or `data`, received `external`"⟩]⟩ :=
  ⟨rfl, rfl⟩

theorem takes_bucketCreation : ResourceChange.Takes (bucketCreation "managed") "aws_s3_bucket.logs" where
  address := rfl
  mode := .inl rfl
  resourceType := ⟨_, rfl⟩
  name := ⟨_, rfl⟩
  providerName := ⟨_, rfl⟩
  change := ⟨_, _, rfl, rfl, fun _ member => ⟨"create", by decide, List.mem_singleton.mp member⟩⟩

theorem repeated_address_reported_managed :
    ∃ e, ofValue (repeatedPlan "managed") = .error e ∧ addressPath 1 ∈ e.paths := by
  obtain ⟨e, refused, reported⟩ := repeated_address_reported_iff (v := repeatedPlan "managed")
    rfl Nat.zero_lt_one rfl rfl takes_bucketCreation.address takes_bucketCreation.address
  exact ⟨e, refused, reported.mpr ⟨takes_bucketCreation, _, List.mem_singleton_self _, takes_bucketCreation⟩⟩

end InfraAudit.Plan
