import InfraAudit.Audit.Plan
import InfraAudit.Proofs.Policy.Selection
import InfraAudit.Proofs.Risk.Analyses

/-!
Buckets are looked at twice: by the analysis of risks and by the rules about storage.
Both agree on public access and on encryption. They read the flag of versioning in
different ways: the analysis takes any value that is not empty for yes, the rule only
true (`LooselyVersioned`). The rule also looks into a block that stands alone and not in
a list, which the analysis never takes for versioning (`BareVersioned`).
-/
namespace InfraAudit

/-! ### Concerns -/

namespace Risk

theorem mem_concerns_analyze {r : Plan.Resource} {state : Value} (planned : r.plannedState? = some state)
    (text : String) :
    text ∈ (analyze r).concerns ↔ ∃ c ∈ concernsOf r.providerShortName r.resourceType state, c.text = text := by
  rw [(notes_analyze r).concerns, List.mem_map]
  simp only [mem_firsts, raised, planned, Option.elim_some]

namespace Aws

theorem exists_mem_bucketConcerns (bucket : Value) (text : String) :
    (∃ c ∈ bucketConcerns bucket, c.text = text) ↔
      (isPublicBucket bucket = true ∧ publicBucket.text = text) ∨
      (bucket.isAbsent "server_side_encryption_configuration" = true ∧ unencryptedBucket.text = text) ∨
      (isVersioned bucket = false ∧ unversionedBucket.text = text) := by
  simp only [bucketConcerns, List.mem_append, mem_concernIf, Bool.not_eq_true', or_assoc, or_and_right, exists_or,
    and_assoc, exists_and_left, exists_eq_left]

theorem texts_ne : publicBucket.text ≠ unencryptedBucket.text ∧ publicBucket.text ≠ unversionedBucket.text ∧
    unencryptedBucket.text ≠ unversionedBucket.text := by decide

end Aws

end Risk

/-! ### Findings -/

/-- An engine reports a target by a rule. -/
def RuleEngine.Reports (e : RuleEngine) (t : Target) (id : String) : Prop :=
  ∃ f ∈ (e.evaluate t).findings, f.ruleId = id

/-- A target is reported under the id of a built-in rule exactly when this rule makes a
    finding on it. -/
theorem RuleEngine.reports_builtin_iff {r : Rule} (member : r ∈ Rule.builtin) {t : Target}
    (applies : r.info.appliesTo t.resourceType = true) :
    RuleEngine.builtin.Reports t r.id ↔ ∃ f, r.evaluate t = .ok (some f) := by
  unfold Reports
  rw [evaluate_eq, list_all_builtin]
  constructor
  · rintro ⟨f, found, named⟩
    obtain ⟨s, known, _, made⟩ := Rule.mem_findings_evaluateAll.mp found
    have same : s.id = r.id := (Rule.attributes_of_mem_builtin known t f made).ruleId.symm.trans named
    have one : s = r := List.inj_on_of_nodup_map Rule.ids_builtin_nodup known member same
    exact ⟨f, one ▸ made⟩
  · rintro ⟨f, made⟩
    refine ⟨f, Rule.mem_findings_evaluateAll.mpr ⟨r, member, applies, made⟩, ?_⟩
    exact (Rule.attributes_of_mem_builtin member t f made).ruleId

/-! ### Both views of a bucket -/

section
variable {bucket : Value}

/-- A bucket with a public access list. -/
def HasPublicAcl (bucket : Value) : Prop :=
  ∃ acl ∈ ["public-read", "public-read-write"], bucket.field? "acl" = some (.string acl)

/-- A flag of versioning that is true. -/
def StrictlyVersioned (bucket : Value) : Prop :=
  ∃ entry, bucket.firstEntry? "versioning" = some entry ∧ entry.field? "enabled" = some (.bool true)

/-- A flag of versioning that stands for yes without being true. -/
def LooselyVersioned (bucket : Value) : Prop :=
  ∃ entry, bucket.firstEntry? "versioning" = some entry ∧ entry.isTruthy "enabled" = true ∧
    entry.field? "enabled" ≠ some (.bool true)

/-- A block about versioning that stands alone, with a flag that is true. -/
def BareVersioned (bucket : Value) : Prop :=
  ∃ fields, bucket.field? "versioning" = some (.object fields) ∧ fields.lookup "enabled" = some (.bool true)

theorem Risk.Aws.isPublicBucket_iff : isPublicBucket bucket = true ↔ HasPublicAcl bucket := by
  simp only [isPublicBucket, HasPublicAcl, Bool.or_eq_true, beq_iff_eq, Value.fieldStr?_eq_some_iff, List.mem_cons,
    List.not_mem_nil, or_false, exists_eq_or_imp, exists_eq_left]

theorem Risk.Aws.isVersioned_iff : isVersioned bucket = true ↔ StrictlyVersioned bucket ∨ LooselyVersioned bucket := by
  unfold isVersioned StrictlyVersioned LooselyVersioned
  cases bucket.firstEntry? "versioning" with
  | none => simp
  | some entry =>
    have strict : entry.field? "enabled" = some (.bool true) → entry.isTruthy "enabled" = true := fun held => by
      rw [Value.isTruthy, held]
    simp only [Option.any_some, Option.some.injEq, exists_eq_left']
    by_cases held : entry.field? "enabled" = some (.bool true)
    · exact iff_of_true (strict held) (.inl held)
    · simp [held]

theorem LooselyVersioned.not_strictly (loosely : LooselyVersioned bucket) : ¬ StrictlyVersioned bucket := by
  rintro ⟨entry, first, held⟩
  obtain ⟨other, first', _, apart⟩ := loosely
  cases first.symm.trans first'
  exact apart held

theorem Value.bool?_eq_some_true_iff (w : Value) : w.bool? = some true ↔ w = .bool true := by
  cases w <;> simp [bool?]

section
variable {fields : Fields}

theorem Value.firstEntry?_of_object {v : Value} {key : String} (bare : v.field? key = some (.object fields)) :
    v.firstEntry? key = none := by
  rw [Value.firstEntry?, Value.fieldArray?, bare]
  rfl

/-- The flag of a block that stands alone is not the flag of a first entry. -/
theorem not_strictly_or_loosely_of_object (bare : bucket.field? "versioning" = some (.object fields)) :
    ¬ (StrictlyVersioned bucket ∨ LooselyVersioned bucket) := by
  have none := Value.firstEntry?_of_object bare
  rintro (⟨entry, first, _⟩ | ⟨entry, first, _⟩)
  · cases none.symm.trans first
  · cases none.symm.trans first

theorem bareVersioned_iff_of_object (bare : bucket.field? "versioning" = some (.object fields)) :
    BareVersioned bucket ↔ fields.lookup "enabled" = some (.bool true) := by
  constructor
  · rintro ⟨other, held, on⟩
    cases bare.symm.trans held
    exact on
  · intro on
    exact ⟨fields, bare, on⟩

end

namespace Rule.Storage

theorem applies_to_bucket {r : Rule} (types : r.info.resourceTypes = bucketTypes) {t : Target}
    (isBucket : t.resourceType = "aws_s3_bucket") : r.info.appliesTo t.resourceType = true := by
  rw [RuleInfo.appliesTo, types, isBucket]
  rfl

theorem reports_publicAccess_iff {t : Target} (isBucket : t.resourceType = "aws_s3_bucket") :
    RuleEngine.builtin.Reports t "storage-public-access" ↔ HasPublicAcl t.resource := by
  have own := RuleEngine.reports_builtin_iff (r := publicAccess) (by simp [builtin]) (applies_to_bucket rfl isBucket)
  refine own.trans ⟨?_, ?_⟩
  · rintro ⟨f, found⟩
    obtain ⟨acl, listed, _⟩ := Option.map_eq_some_iff.mp (Except.ok.inj found)
    obtain ⟨held, isPublic⟩ := Option.filter_eq_some_iff.mp listed
    exact ⟨acl, List.contains_iff_mem.mp isPublic, Value.fieldStr?_eq_some_iff.mp held⟩
  · rintro ⟨acl, isPublic, held⟩
    have listed : publicAcl? t.resource = some acl :=
      Option.filter_eq_some_iff.mpr ⟨Value.fieldStr?_eq_some_iff.mpr held, List.contains_iff_mem.mpr isPublic⟩
    exact ⟨_, congrArg Except.ok (Option.map_eq_some_iff.mpr ⟨acl, listed, rfl⟩)⟩

theorem reports_noEncryption_iff {t : Target} (isBucket : t.resourceType = "aws_s3_bucket") :
    RuleEngine.builtin.Reports t "storage-no-encryption" ↔
      t.resource.isAbsent "server_side_encryption_configuration" = true := by
  have own := RuleEngine.reports_builtin_iff (r := noEncryption) (by simp [builtin]) (applies_to_bucket rfl isBucket)
  refine own.trans ?_
  by_cases absent : t.resource.isAbsent "server_side_encryption_configuration" = true <;>
    simp [noEncryption, isUnencrypted, absent]

theorem reports_noVersioning_iff {t : Target} (isBucket : t.resourceType = "aws_s3_bucket") :
    RuleEngine.builtin.Reports t "storage-no-versioning" ↔ versioningGap? t.resource ≠ none := by
  have own := RuleEngine.reports_builtin_iff (r := noVersioning) (by simp [builtin]) (applies_to_bucket rfl isBucket)
  refine own.trans ?_
  simp [noVersioning, Option.ne_none_iff_exists']

/-- A bucket is versioned for the rule when the flag of the first block in a list is true,
    or that of a block that stands alone. -/
theorem versioningGap?_eq_none_iff :
    versioningGap? bucket = none ↔ StrictlyVersioned bucket ∨ BareVersioned bucket := by
  have enabled : versioningGap? bucket = none ↔
      bucket.isAbsent "versioning" = false ∧
        ∃ block, versioningBlock? bucket = some block ∧ block.field? "enabled" = some (.bool true) := by
    unfold versioningGap?
    cases bucket.isAbsent "versioning" <;> simp [Option.bind_eq_some_iff, Value.bool?_eq_some_true_iff]
  rw [enabled]
  unfold versioningBlock? StrictlyVersioned BareVersioned Value.firstEntry? Value.fieldArray? Value.isAbsent
  -- A list is never taken for a block that stands alone, even when it is empty.
  cases bucket.field? "versioning" with
  | none => simp
  | some w =>
    cases w with
    | array items => simp [Value.items?, Value.isObject, Option.filter]
    | object fields => simp [Value.items?, Value.isObject, Value.field?]
    | _ => simp [Value.items?, Value.isObject]

end Rule.Storage

end

/-- The concerns about a planned bucket, by what the bucket is like. -/
theorem Risk.mem_concerns_of_bucket {r : Plan.Resource} {state : Value} (planned : r.plannedState? = some state)
    (provider : r.providerShortName = "aws") (bucket : r.resourceType = "aws_s3_bucket") :
    (Aws.publicBucket.text ∈ (analyze r).concerns ↔ Aws.isPublicBucket state = true) ∧
    (Aws.unencryptedBucket.text ∈ (analyze r).concerns ↔
      state.isAbsent "server_side_encryption_configuration" = true) ∧
    (Aws.unversionedBucket.text ∈ (analyze r).concerns ↔ Aws.isVersioned state = false) := by
  obtain ⟨first, second, third⟩ := Aws.texts_ne
  simp only [mem_concerns_analyze planned, provider, bucket, concernsOf, Aws.concerns, Aws.exists_mem_bucketConcerns,
    first, second, third, first.symm, second.symm, third.symm, and_true, and_false, or_false, false_or, and_self]

/-- The analysis of a planned bucket and the rules about storage agree on public access
    and on encryption. On a block about versioning that stands alone the analysis always
    notes something, and the rule reports it unless its flag is true. Without such a flag
    in a block alone, the rule finds what the analysis notes, and besides a flag in a list
    that stands for yes without being true. -/
theorem bucket_concerns_iff_reports {r : Plan.Resource} {state : Value} (planned : r.plannedState? = some state)
    (provider : r.providerShortName = "aws") (bucket : r.resourceType = "aws_s3_bucket") :
    ∃ t, r.target? = some t ∧ t.resource = state ∧
      (Risk.Aws.publicBucket.text ∈ (Risk.analyze r).concerns ↔
        RuleEngine.builtin.Reports t "storage-public-access") ∧
      (Risk.Aws.unencryptedBucket.text ∈ (Risk.analyze r).concerns ↔
        RuleEngine.builtin.Reports t "storage-no-encryption") ∧
      (∀ fields, state.field? "versioning" = some (.object fields) →
        Risk.Aws.unversionedBucket.text ∈ (Risk.analyze r).concerns ∧
        (RuleEngine.builtin.Reports t "storage-no-versioning" ↔ fields.lookup "enabled" ≠ some (.bool true))) ∧
      (¬ BareVersioned state →
        (LooselyVersioned state → RuleEngine.builtin.Reports t "storage-no-versioning") ∧
        (Risk.Aws.unversionedBucket.text ∈ (Risk.analyze r).concerns ↔
          RuleEngine.builtin.Reports t "storage-no-versioning" ∧ ¬ LooselyVersioned state)) := by
  have target : r.target? = some ⟨state, r.resourceType, r.name, some r.address⟩ := by
    rw [Plan.Resource.target?, planned]
    rfl
  obtain ⟨isPublic, unencrypted, unversioned⟩ := Risk.mem_concerns_of_bucket planned provider bucket
  rw [← Bool.not_eq_true, Risk.Aws.isVersioned_iff] at unversioned
  refine ⟨_, target, rfl, ?_, ?_, fun fields bare => ⟨?_, ?_⟩, fun listed => ?_⟩
  · rw [isPublic, Risk.Aws.isPublicBucket_iff, Rule.Storage.reports_publicAccess_iff bucket]
  · rw [unencrypted, Rule.Storage.reports_noEncryption_iff bucket]
  · exact unversioned.mpr (not_strictly_or_loosely_of_object bare)
  · have unlisted : ¬ StrictlyVersioned state := fun strictly => not_strictly_or_loosely_of_object bare (.inl strictly)
    rw [Rule.Storage.reports_noVersioning_iff bucket, ne_eq, Rule.Storage.versioningGap?_eq_none_iff,
      or_iff_right unlisted, bareVersioned_iff_of_object bare]
  · rw [Rule.Storage.reports_noVersioning_iff bucket, ne_eq, Rule.Storage.versioningGap?_eq_none_iff,
      or_iff_left listed, unversioned, not_or]
    exact ⟨LooselyVersioned.not_strictly, Iff.rfl⟩

/-- A public bucket that is created with a block about encryption and one about
    versioning. -/
def publicBucketWith (versioning : Value) : Plan.Resource :=
  { address := "aws_s3_bucket.logs"
    resourceType := "aws_s3_bucket"
    name := "logs"
    provider := "registry.terraform.io/hashicorp/aws"
    action := .create
    before := none
    after := some (.object
      [("acl", .string "public-read"), ("server_side_encryption_configuration", .array []),
        ("versioning", versioning)]) }

/-- A bucket whose versioning is a list of one block. -/
def publicBucketFlagged (enabled : Value) : Plan.Resource :=
  publicBucketWith (.array [.object [("enabled", enabled)]])

/-- A flag that is a text is reported by the rule and not noted by the analysis; a bare
    object is noted by the analysis and not reported by the rule. -/
theorem versioning_views_differ :
    (publicBucketFlagged (.string "true")).providerShortName = "aws" ∧
    (Risk.Aws.unversionedBucket.text ∉ (Risk.analyze (publicBucketFlagged (.string "true"))).concerns ∧
      ∃ t, (publicBucketFlagged (.string "true")).target? = some t ∧
        RuleEngine.builtin.Reports t "storage-no-versioning") ∧
    (Risk.Aws.unversionedBucket.text ∈
        (Risk.analyze (publicBucketWith (.object [("enabled", .bool true)]))).concerns ∧
      ∃ t, (publicBucketWith (.object [("enabled", .bool true)])).target? = some t ∧
        ¬ RuleEngine.builtin.Reports t "storage-no-versioning") := by
  refine ⟨by decide +kernel, ⟨by decide +kernel, _, rfl, (Rule.Storage.reports_noVersioning_iff rfl).mpr ?_⟩,
    by decide +kernel, _, rfl, mt (Rule.Storage.reports_noVersioning_iff rfl).mp ?_⟩
  · decide +kernel
  · decide +kernel

/-- A flag that is false is noted and reported, in a list and in a block alone. -/
theorem bucket_concerns_iff_reports_unversioned :
    (∃ t, (publicBucketFlagged (.bool false)).target? = some t ∧
      RuleEngine.builtin.Reports t "storage-public-access" ∧ ¬ RuleEngine.builtin.Reports t "storage-no-encryption" ∧
      RuleEngine.builtin.Reports t "storage-no-versioning") ∧
    (∃ t, (publicBucketWith (.object [("enabled", .bool false)])).target? = some t ∧
      Risk.Aws.unversionedBucket.text ∈
        (Risk.analyze (publicBucketWith (.object [("enabled", .bool false)]))).concerns ∧
      RuleEngine.builtin.Reports t "storage-no-versioning") := by
  constructor
  · obtain ⟨t, target, _, access, encryption, _, versioning⟩ :=
      bucket_concerns_iff_reports (r := publicBucketFlagged (.bool false)) rfl (by decide +kernel) rfl
    obtain ⟨_, noted⟩ := versioning (by rintro ⟨fields, ⟨⟩, _⟩)
    exact ⟨t, target, access.mp (by decide +kernel), mt encryption.mpr (by decide +kernel),
      (noted.mp (by decide +kernel)).1⟩
  · obtain ⟨t, target, _, _, _, bare, _⟩ :=
      bucket_concerns_iff_reports (r := publicBucketWith (.object [("enabled", .bool false)])) rfl
        (by decide +kernel) rfl
    obtain ⟨noted, reported⟩ := bare _ rfl
    exact ⟨t, target, noted, reported.mpr (by rintro ⟨⟩)⟩

end InfraAudit
