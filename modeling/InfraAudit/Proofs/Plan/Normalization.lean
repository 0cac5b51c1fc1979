import InfraAudit.Plan.Drift
import InfraAudit.Proofs.Json.Reader
import InfraAudit.Proofs.Plan.Reading
import InfraAudit.Proofs.Value.Order

/-!
Plans written out as documents. What a plan is written out as holds what the plan does
(`Reads.encode`), also when its keys are put in order (`Reads.sortKeys`), and whatever holds
the same as a document of a plan has the form of one (`Conforms.of_reads`). So a plan that
was read is read again from what it is written out as, and writing the plans of documents out
again changes nothing more.
-/
namespace InfraAudit

/-- What stands under two keys is the same object when both values read the same there. -/
theorem Value.field?_object_of_same {v w : Value} {key : String} {fields : Fields}
    (same : w.present? key = v.present? key) (held : w.field? key = some (.object fields)) :
    v.field? key = some (.object fields) := by
  have present := Value.present?_of_field? held rfl
  rw [same] at present
  exact (Option.filter_eq_some_iff.mp present).1

namespace Plan

/-! ### Documents of the same plan -/

section
variable {v w : Value}

theorem Change.Conforms.of_reads {c : Change} (ok : Change.Conforms v) (source : Change.Reads v c)
    (reads : Change.Reads w c) : Change.Conforms w := by
  have same : w.field? "actions" = v.field? "actions" := reads.actions.trans source.actions.symm
  have before : w.present? "before" = v.present? "before" := reads.before.symm.trans source.before
  have after : w.present? "after" = v.present? "after" := reads.after.symm.trans source.after
  constructor
  · rw [same]
    exact ok.actions
  · rw [same, Value.unset_iff_present?, before, ← Value.unset_iff_present?]
    exact ok.before
  · rw [same, Value.unset_iff_present?, after, ← Value.unset_iff_present?]
    exact ok.after

theorem ResourceChange.Conforms.of_reads {c : ResourceChange} (ok : ResourceChange.Conforms v)
    (source : ResourceChange.Reads v c) (reads : ResourceChange.Reads w c) : ResourceChange.Conforms w where
  object := Value.isObject_of_field? reads.address
  address := ⟨_, reads.address⟩
  moduleAddress := Value.maybeString_of_present? reads.moduleAddress
  mode := (mode_iff w).mp ⟨_, reads.mode⟩
  resourceType := ⟨_, reads.resourceType⟩
  name := ⟨_, reads.name⟩
  providerName := ⟨_, reads.providerName⟩
  change := by
    obtain ⟨x, held, first⟩ := source.change
    obtain ⟨y, there, second⟩ := reads.change
    obtain ⟨_, held', _, conforms⟩ := ok.change
    cases held.symm.trans held'
    exact ⟨y, there, Value.isObject_of_field? second.actions, conforms.of_reads first second⟩

theorem conforms_of_forall₂ {items others : List Value} {changes : List ResourceChange}
    (ok : ∀ item ∈ items, ResourceChange.Conforms item) (source : List.Forall₂ ResourceChange.Reads items changes)
    (reads : List.Forall₂ ResourceChange.Reads others changes) : ∀ item ∈ others, ResourceChange.Conforms item := by
  induction source generalizing others with
  | nil =>
    cases reads
    exact List.forall_mem_nil _
  | cons first _ ih =>
    cases reads with
    | cons second later =>
      obtain ⟨conforms, rest⟩ := List.forall_mem_cons.mp ok
      exact List.forall_mem_cons.mpr ⟨conforms.of_reads first second, ih rest later⟩

/-- A document that holds what a document of a plan does has the form of a plan, too. -/
theorem Conforms.of_reads {p : Plan} (ok : Conforms v) (source : Reads v p) (reads : Reads w p) : Conforms w where
  object := Value.isObject_of_field? reads.formatVersion
  formatVersion := ⟨_, reads.formatVersion⟩
  terraformVersion := ⟨_, reads.terraformVersion⟩
  variableValues := Value.maybeObject_of_present? reads.variableValues
  variableEntries fields held :=
    ok.variableEntries fields
      (Value.field?_object_of_same (reads.variableValues.trans source.variableValues.symm) held)
  plannedValues := Value.maybeObject_of_present? reads.plannedValues
  configuration := Value.maybeObject_of_present? reads.configuration
  priorState := Value.maybeObject_of_present? reads.priorState
  priorVersions fields held :=
    ok.priorVersions fields (Value.field?_object_of_same (reads.priorState.trans source.priorState.symm) held)
  resourceChanges := by
    obtain ⟨items, listed, conform, apart⟩ := ok.resourceChanges
    obtain ⟨_, listed', first⟩ := source.resourceChanges
    cases listed.symm.trans listed'
    obtain ⟨others, there, second⟩ := reads.resourceChanges
    have addresses := (addresses_of_reads second).trans (addresses_of_reads first).symm
    have distinct : (items.map (fun item => item.field? "address")).Nodup := List.pairwise_map.mpr apart
    rw [← addresses] at distinct
    exact ⟨others, there, conforms_of_forall₂ conform first second, List.pairwise_map.mp distinct⟩

end

/-! ### Plans as documents -/

theorem filter_encodeOption (o : Option Value) :
    (some (Record.encodeOption id o)).filter (fun w => !w.isNull) = o.filter (fun w => !w.isNull) := by
  cases o <;> rfl

/-- A change is written out as it was read: a state that is null was not read as one. -/
theorem Change.Reads.encode {v : Value} {c : Change} (source : Change.Reads v c) : Change.Reads c.encode c := by
  have before : c.before.filter (fun w => !w.isNull) = c.before := by
    rw [source.before, Value.present?, Option.filter_filter]
    simp only [Bool.and_self]
  have after : c.after.filter (fun w => !w.isNull) = c.after := by
    rw [source.after, Value.present?, Option.filter_filter]
    simp only [Bool.and_self]
  obtain ⟨actions, before', after', unknown, beforeSensitive, afterSensitive⟩ := c
  constructor
  · rfl
  · exact before.symm.trans (filter_encodeOption before').symm
  · exact after.symm.trans (filter_encodeOption after').symm
  · cases unknown <;> cases beforeSensitive <;> cases afterSensitive <;> rfl
  · cases unknown <;> cases beforeSensitive <;> cases afterSensitive <;> rfl
  · cases unknown <;> cases beforeSensitive <;> cases afterSensitive <;> rfl

theorem ResourceChange.Reads.encode {v : Value} {c : ResourceChange} (source : ResourceChange.Reads v c) :
    ResourceChange.Reads c.encode c := by
  obtain ⟨w, _, change⟩ := source.change
  have written : Change.Reads c.change.encode c.change := change.encode
  obtain ⟨address, moduleAddress, mode, type, name, provider, inner⟩ := c
  constructor
  case change =>
    refine ⟨inner.encode, ?_, written⟩
    cases moduleAddress <;> rfl
  all_goals cases moduleAddress <;> rfl

theorem forall₂_reads_encode {items : List Value} {changes : List ResourceChange}
    (source : List.Forall₂ ResourceChange.Reads items changes) :
    List.Forall₂ ResourceChange.Reads (changes.map ResourceChange.encode) changes := by
  induction source with
  | nil => exact .nil
  | cons first _ ih => exact .cons first.encode ih

/-- What a plan is written out as holds what the plan does. -/
theorem Reads.encode {v : Value} {p : Plan} (source : Reads v p) : Reads p.encode p := by
  obtain ⟨items, _, changes⟩ := source.resourceChanges
  have written := forall₂_reads_encode changes
  obtain ⟨format, terraform, values, planned, resourceChanges, configuration, prior⟩ := p
  constructor
  case formatVersion => rfl
  case terraformVersion => rfl
  case resourceChanges =>
    refine ⟨resourceChanges.map ResourceChange.encode, ?_, written⟩
    cases values <;> cases planned <;> rfl
  all_goals cases values <;> cases planned <;> cases configuration <;> cases prior <;> rfl

/-! ### Keys in order -/

section
variable {v w : Value} (sorted : v.sortKeys = v)

include sorted

theorem Change.Reads.sortKeys {c : Change} (source : Change.Reads v c) (reads : Change.Reads w c) :
    Change.Reads w.sortKeys c where
  actions := Value.field?_sortKeys_of_same sorted source.actions reads.actions
  before := (Value.present?_sortKeys_of_same sorted source.before.symm reads.before.symm).symm
  after := (Value.present?_sortKeys_of_same sorted source.after.symm reads.after.symm).symm
  afterUnknown := (Value.field?_sortKeys_of_same sorted source.afterUnknown.symm reads.afterUnknown.symm).symm
  beforeSensitive :=
    (Value.field?_sortKeys_of_same sorted source.beforeSensitive.symm reads.beforeSensitive.symm).symm
  afterSensitive := (Value.field?_sortKeys_of_same sorted source.afterSensitive.symm reads.afterSensitive.symm).symm

theorem ResourceChange.Reads.sortKeys {c : ResourceChange} (source : ResourceChange.Reads v c)
    (reads : ResourceChange.Reads w c) : ResourceChange.Reads w.sortKeys c where
  address := Value.field?_sortKeys_of_same sorted source.address reads.address
  moduleAddress := Value.present?_sortKeys_of_same sorted source.moduleAddress reads.moduleAddress
  mode := Value.field?_sortKeys_of_same sorted source.mode reads.mode
  resourceType := Value.field?_sortKeys_of_same sorted source.resourceType reads.resourceType
  name := Value.field?_sortKeys_of_same sorted source.name reads.name
  providerName := Value.field?_sortKeys_of_same sorted source.providerName reads.providerName
  change := by
    obtain ⟨x, held, first⟩ := source.change
    obtain ⟨y, there, second⟩ := reads.change
    have inner : x.sortKeys = x := Value.sortKeys_of_field? sorted held
    refine ⟨y.sortKeys, ?_, first.sortKeys inner second⟩
    rw [Value.field?_sortKeys, there, Option.map_some]

omit sorted in
theorem forall₂_reads_sortItems {items others : List Value} {changes : List ResourceChange}
    (sorted : Value.sortItems items = items) (source : List.Forall₂ ResourceChange.Reads items changes)
    (reads : List.Forall₂ ResourceChange.Reads others changes) :
    List.Forall₂ ResourceChange.Reads (Value.sortItems others) changes := by
  induction source generalizing others with
  | nil =>
    cases reads
    exact .nil
  | cons first _ ih =>
    cases reads with
    | cons second later =>
      obtain ⟨item, rest⟩ := List.cons.inj sorted
      exact .cons (first.sortKeys item second) (ih rest later)

theorem Reads.sortKeys {p : Plan} (source : Reads v p) (reads : Reads w p) : Reads w.sortKeys p where
  formatVersion := Value.field?_sortKeys_of_same sorted source.formatVersion reads.formatVersion
  terraformVersion := Value.field?_sortKeys_of_same sorted source.terraformVersion reads.terraformVersion
  variableValues := Value.present?_sortKeys_of_same sorted source.variableValues reads.variableValues
  plannedValues := Value.present?_sortKeys_of_same sorted source.plannedValues reads.plannedValues
  configuration := Value.present?_sortKeys_of_same sorted source.configuration reads.configuration
  priorState := Value.present?_sortKeys_of_same sorted source.priorState reads.priorState
  resourceChanges := by
    obtain ⟨items, listed, first⟩ := source.resourceChanges
    obtain ⟨others, there, second⟩ := reads.resourceChanges
    have inner := Value.array.inj (Value.sortKeys_of_field? sorted listed)
    refine ⟨Value.sortItems others, ?_, forall₂_reads_sortItems inner first second⟩
    rw [Value.field?_sortKeys, there, Option.map_some]
    rfl

end

/-! ### Normal forms -/

/-- The normal form of a document: what its plan is written out as, with the keys in
    order. -/
def normalize (v : Value) : Except ValidationError Value := (ofValue v).map fun p => p.encode.sortKeys

theorem ofValue_of_reads {v w : Value} {p : Plan} (read : ofValue v = .ok p) (reads : Reads w p) :
    ofValue w = .ok p := by
  obtain ⟨conforms, source⟩ := (ofValue_eq_ok_iff_reads v p).mp read
  exact (ofValue_eq_ok_iff_reads w p).mpr ⟨conforms.of_reads source reads, reads⟩

/-- A plan that was read is read again from what it is written out as, also with the keys in
    order, as they are in the document that it came from. So the normal form of a document
    is a document of the same plan, with the same resources, summary and drift, and is its
    own normal form. Documents that are read from JSON text have their keys in order. -/
theorem normalize_keeps_plan {v : Value} {p : Plan} (read : ofValue v = .ok p) :
    ofValue p.encode = .ok p ∧
    (v.sortKeys = v →
      ∃ w, normalize v = .ok w ∧ ofValue w = .ok p ∧ normalize w = .ok w ∧
        ∀ q, ofValue w = .ok q → q.resources = p.resources ∧ q.summary = p.summary ∧ q.drift = p.drift) ∧
    (∀ text, Json.parse text = .ok v → v.sortKeys = v) := by
  obtain ⟨_, source⟩ := (ofValue_eq_ok_iff_reads v p).mp read
  refine ⟨ofValue_of_reads read source.encode, fun sorted => ?_, fun _ parsed => Json.sortKeys_of_parse parsed⟩
  have again : ofValue p.encode.sortKeys = .ok p := ofValue_of_reads read (source.sortKeys sorted source.encode)
  refine ⟨p.encode.sortKeys, ?_, again, ?_, fun q reread => ?_⟩
  · rw [normalize, read]
    rfl
  · rw [normalize, again]
    rfl
  · cases again.symm.trans reread
    exact ⟨rfl, rfl, rfl⟩

/-- A plan that replaces a volume. What will be known of it is null and not missing, and
    nothing is said of what is sensitive after the change. -/
def replacedVolume : Value :=
  .object
    [("configuration", .object []), ("format_version", .string "1.2"), ("planned_values", .null),
      ("resource_changes", .array [.object
        [("address", .string "aws_ebs_volume.data"),
          ("change", .object
            [("actions", .array [.string "delete", .string "create"]), ("after", .object [("size", .number (.int 8))]),
              ("after_unknown", .null), ("before", .null), ("before_sensitive", .bool false)]),
          ("mode", .string "managed"), ("module_address", .null), ("name", .string "data"),
          ("provider_name", .string "registry.terraform.io/hashicorp/aws"), ("type", .string "aws_ebs_volume")]]),
      ("terraform_version", .string "1.6.0"), ("variables", .object [])]

theorem normalize_keeps_plan_replaced :
    ∃ p w, ofValue replacedVolume = .ok p ∧ replacedVolume.sortKeys = replacedVolume ∧
      (p.resourceChanges.map fun c => (c.change.before, c.change.afterUnknown, c.change.afterSensitive)) =
        [(none, some .null, none)] ∧
      ofValue p.encode = .ok p ∧ normalize replacedVolume = .ok w ∧ w ≠ replacedVolume ∧ ofValue w = .ok p := by
  have sorted : replacedVolume.sortKeys = replacedVolume := by rfl
  obtain ⟨written, inOrder, _⟩ := normalize_keeps_plan (v := replacedVolume) rfl
  obtain ⟨w, normal, again, _⟩ := inOrder sorted
  refine ⟨_, w, rfl, sorted, rfl, written, normal, ?_, again⟩
  -- Fields that are null are left out.
  have shorter : w.field? "planned_values" = none := by
    rw [← Except.ok.inj normal]
    rfl
  rintro rfl
  cases shorter

end Plan

end InfraAudit
