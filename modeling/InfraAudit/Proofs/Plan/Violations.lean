import InfraAudit.Proofs.Plan.Issues

/-!
Whether the issues of a refused document are violations of its form. Each kind of
violation is described without reference to how it is found (`Violation`). The issues
that are none of them are about states: the check takes a change for a mere creation or
deletion when one action alone is known, whatever the unknown ones beside it.
-/
namespace InfraAudit.Plan

/-! ### Violations -/

/-- A violation of the form of a change. -/
inductive Change.Violation (path : String) (v : Value) : FieldIssue → Prop
  | actions {i : FieldIssue} (lacks : v.Lacks "array" "actions" path i) : Violation path v i
  | action {items : List Value} {n : Nat} {item : Value} (listed : v.field? "actions" = some (.array items))
      (found : items[n]? = some item) (unknown : ¬ NamesAction item) : Violation path v (actionIssue path n item)
  | state {key : String} {only : ChangeAction} (rule : (key, only) ∈ emptyStates)
      (sole : v.field? "actions" = some (.array [.string only.name])) (held : ¬ v.Unset key) :
      Violation path v (stateIssue path key only)

/-- A state beside several actions, one of which alone is known. The form of a change
    leaves it open. -/
inductive Change.Unfounded (path : String) (v : Value) : FieldIssue → Prop
  | state {key : String} {only : ChangeAction} {items : List Value} (rule : (key, only) ∈ emptyStates)
      (listed : v.field? "actions" = some (.array items)) (several : items ≠ [.string only.name])
      (known : items.filterMap ChangeAction.ofValue? = [only]) (held : ¬ v.Unset key) :
      Unfounded path v (stateIssue path key only)

/-- A violation of the form of a resource change. -/
inductive ResourceChange.Violation (path : String) (v : Value) : FieldIssue → Prop
  | object (other : v.isObject = false) : Violation path v (.mismatch path "object" v)
  | text {key : String} {i : FieldIssue} (required : key ∈ ["address", "mode", "type", "name", "provider_name"])
      (lacks : v.Lacks "string" key path i) : Violation path v i
  | moduleAddress {i : FieldIssue} (mistypes : v.Mistypes "string" "module_address" path i) : Violation path v i
  | mode {name : String} (held : v.field? "mode" = some (.string name)) (unknown : name ∉ ["managed", "data"]) :
      Violation path v (modeIssue path name)
  | change {i : FieldIssue} (lacks : v.Lacks "object" "change" path i) : Violation path v i
  | inner {w : Value} {i : FieldIssue} (held : v.field? "change" = some w) (object : w.isObject = true)
      (violation : Change.Violation (FieldPath.field path "change") w i) : Violation path v i

/-- A violation of the form of a plan. -/
inductive Violation (v : Value) : FieldIssue → Prop
  | object (other : v.isObject = false) : Violation v (.mismatch "" "object" v)
  | version {key : String} {i : FieldIssue} (required : key ∈ versionKeys) (lacks : v.Lacks "string" key "" i) :
      Violation v i
  | part {key : String} {i : FieldIssue}
      (optional : key ∈ ["variables", "planned_values", "configuration", "prior_state"])
      (mistypes : v.Mistypes "object" key "" i) : Violation v i
  | variableEntry {fields : Fields} {entry : String × Value} (held : v.field? "variables" = some (.object fields))
      (member : entry ∈ fields) (other : entry.2.isObject = false) : Violation v (variableIssue entry.1)
  | priorVersion {fields : Fields} {key : String} {i : FieldIssue}
      (held : v.field? "prior_state" = some (.object fields)) (required : key ∈ versionKeys)
      (lacks : (Value.object fields).Lacks "string" key "prior_state" i) : Violation v i
  | changes {i : FieldIssue} (lacks : v.Lacks "array" "resource_changes" "" i) : Violation v i
  | change {items : List Value} {n : Nat} {item : Value} {i : FieldIssue}
      (listed : v.field? "resource_changes" = some (.array items)) (found : items[n]? = some item)
      (violation : ResourceChange.Violation (changePath n) item i) : Violation v i
  | duplicate {items : List Value} {m n : Nat} {a b : Value} {address : String}
      (listed : v.field? "resource_changes" = some (.array items)) (earlier : m < n)
      (first : items[m]? = some a) (second : items[n]? = some b)
      (addressed : a.field? "address" = some (.string address)) (same : b.field? "address" = some (.string address)) :
      Violation v (duplicateIssue n address)

/-- An issue of a document about a state that its form leaves open. -/
def Unfounded (v : Value) (i : FieldIssue) : Prop :=
  ∃ (n : Nat) (item w : Value), (v.entries "resource_changes")[n]? = some item ∧ item.field? "change" = some w ∧
    Change.Unfounded (FieldPath.field (changePath n) "change") w i

variable {path : String} {v : Value} {i : FieldIssue}

/-! ### Conforming documents -/

theorem Change.Violation.not_conforms (violation : Change.Violation path v i) : ¬ Change.Conforms v := by
  intro ok
  obtain ⟨items, listed, all⟩ := ok.actions
  cases violation with
  | actions lacks => exact lacks.typeName_ne listed rfl
  | action listed' found unknown =>
    rw [listed] at listed'
    cases listed'
    exact unknown (all _ (List.mem_of_getElem? found))
  | state rule sole held =>
    simp only [emptyStates, List.mem_cons, Prod.mk.injEq, List.not_mem_nil, or_false] at rule
    rcases rule with ⟨rfl, rfl⟩ | ⟨rfl, rfl⟩
    · exact held (ok.before sole)
    · exact held (ok.after sole)

theorem ResourceChange.Violation.not_conforms (violation : ResourceChange.Violation path v i) :
    ¬ ResourceChange.Conforms v := by
  intro ok
  obtain ⟨w, held, object, conforms⟩ := ok.change
  cases violation with
  | object other => exact Bool.noConfusion (ok.object.symm.trans other)
  | text required lacks =>
    refine lacks.not_hasString ?_
    simp only [List.mem_cons, List.not_mem_nil, or_false] at required
    rcases required with rfl | rfl | rfl | rfl | rfl
    · exact ok.address
    · exact ok.mode.elim (fun held => ⟨_, held⟩) (fun held => ⟨_, held⟩)
    · exact ok.resourceType
    · exact ok.name
    · exact ok.providerName
  | moduleAddress mistypes => exact mistypes.not_maybeString ok.moduleAddress
  | mode held unknown =>
    rcases ok.mode with managed | data
    · rw [managed] at held
      cases held
      exact unknown (by decide)
    · rw [data] at held
      cases held
      exact unknown (by decide)
  | change lacks =>
    cases w with
    | object fields => exact lacks.typeName_ne held rfl
    | _ => cases object
  | inner held' _ violation =>
    rw [held] at held'
    cases held'
    exact violation.not_conforms conforms

/-- A document with a violation is no plan. -/
theorem Violation.not_conforms (violation : Violation v i) : ¬ Conforms v := by
  intro ok
  obtain ⟨items, listed, all, apart⟩ := ok.resourceChanges
  cases violation with
  | object other => exact Bool.noConfusion (ok.object.symm.trans other)
  | version required lacks =>
    refine lacks.not_hasString ?_
    simp only [versionKeys, List.mem_cons, List.not_mem_nil, or_false] at required
    rcases required with rfl | rfl
    · exact ok.formatVersion
    · exact ok.terraformVersion
  | part optional mistypes =>
    refine mistypes.not_maybeObject ?_
    simp only [List.mem_cons, List.not_mem_nil, or_false] at optional
    rcases optional with rfl | rfl | rfl | rfl
    · exact ok.variableValues
    · exact ok.plannedValues
    · exact ok.configuration
    · exact ok.priorState
  | variableEntry held member other =>
    exact Bool.noConfusion ((ok.variableEntries _ held _ member).symm.trans other)
  | priorVersion held required lacks =>
    obtain ⟨format, terraform⟩ := ok.priorVersions _ held
    refine lacks.not_hasString ?_
    simp only [versionKeys, List.mem_cons, List.not_mem_nil, or_false] at required
    rcases required with rfl | rfl
    · exact format
    · exact terraform
  | changes lacks => exact lacks.typeName_ne listed rfl
  | change listed' found violation =>
    rw [listed] at listed'
    cases listed'
    exact violation.not_conforms (all _ (List.mem_of_getElem? found))
  | duplicate listed' earlier first second addressed same =>
    rw [listed] at listed'
    cases listed'
    obtain ⟨low, rfl⟩ := List.getElem?_eq_some_iff.mp first
    obtain ⟨high, rfl⟩ := List.getElem?_eq_some_iff.mp second
    exact List.pairwise_iff_getElem.mp apart _ _ low high earlier (addressed.trans same.symm)

/-! ### Issues that are found -/

/-- The raw actions of which one alone is known: it stands alone or beside others. -/
theorem Change.known_eq_singleton_iff (only : ChangeAction) :
    Change.known v = [only] ↔
      v.field? "actions" = some (.array [.string only.name]) ∨
        ∃ items, v.field? "actions" = some (.array items) ∧ items ≠ [.string only.name] ∧
          items.filterMap ChangeAction.ofValue? = [only] := by
  constructor
  · intro known
    have listed := Change.listed_of_known known
    by_cases sole : v.entries "actions" = [.string only.name]
    · exact .inl (sole ▸ listed)
    · exact .inr ⟨_, listed, sole, known⟩
  · rintro (sole | ⟨items, listed, _, known⟩)
    · rw [Change.known, Value.entries_of_field? sole]
      exact congrArg Option.toList (ChangeAction.ofValue?_encode only)
    · rw [Change.known, Value.entries_of_field? listed, known]

/-- The check of a change finds what its form does not allow, and the states beside
    actions of which one alone is known. -/
theorem Change.mem_issues_check_iff_violation :
    i ∈ (Change.check path v).issues ↔ Change.Violation path v i ∨ Change.Unfounded path v i := by
  rw [Change.mem_issues_check]
  constructor
  · rintro (lacks | ⟨n, item, found, unknown, rfl⟩ | ⟨⟨key, only⟩, rule, known, held, rfl⟩)
    · exact .inl (.actions lacks)
    · exact .inl (.action (Value.field?_of_getElem?_entries found) found unknown)
    · rcases (Change.known_eq_singleton_iff only).mp known with sole | ⟨items, listed, several, alone⟩
      · exact .inl (.state rule sole held)
      · exact .inr (.state rule listed several alone held)
  · rintro ((lacks | ⟨listed, found, unknown⟩ | ⟨rule, sole, held⟩) | ⟨rule, listed, several, alone, held⟩)
    · exact .inl lacks
    · exact .inr (.inl ⟨_, _, Value.entries_of_field? listed ▸ found, unknown, rfl⟩)
    · exact .inr (.inr ⟨_, rule, (Change.known_eq_singleton_iff _).mpr (.inl sole), held, rfl⟩)
    · exact .inr (.inr ⟨_, rule, (Change.known_eq_singleton_iff _).mpr (.inr ⟨_, listed, several, alone⟩), held, rfl⟩)

theorem ResourceChange.violation_of_mem_issues (found : i ∈ (ResourceChange.check path v).issues) :
    ResourceChange.Violation path v i ∨
      ∃ w, v.field? "change" = some w ∧ Change.Unfounded (FieldPath.field path "change") w i := by
  cases object : v.isObject with
  | false =>
    obtain rfl := (ResourceChange.mem_issues_check_of_not_object object).mp found
    exact .inl (.object object)
  | true =>
    rcases (ResourceChange.mem_issues_check object).mp found with lacks | mistypes | mode | ⟨key, one, lacks⟩ | change
    · exact .inl (.text (by decide) lacks)
    · exact .inl (.moduleAddress mistypes)
    · rcases mem_issues_checkMode.mp mode with lacks | ⟨name, held, unknown, rfl⟩
      · exact .inl (.text (by decide) lacks)
      · exact .inl (.mode held unknown)
    · have required : ["type", "name", "provider_name"] ⊆ ["address", "mode", "type", "name", "provider_name"] := by
        decide
      exact .inl (.text (required one) lacks)
    · rcases mem_issues_checkChange.mp change with lacks | ⟨w, held, inner, found⟩
      · exact .inl (.change lacks)
      · rcases Change.mem_issues_check_iff_violation.mp found with violation | unfounded
        · exact .inl (.inner held inner violation)
        · exact .inr ⟨w, held, unfounded⟩

theorem violation_of_mem_scan (found : i ∈ (checkResourceChanges [] 0 (v.entries "resource_changes")).issues) :
    Violation v i ∨ Unfounded v i := by
  obtain ⟨n, item, there, own | ⟨address, takes, ⟨other, member, takesFirst⟩, rfl⟩⟩ := (mem_issues_scan _).mp found
  · rcases ResourceChange.violation_of_mem_issues own with violation | ⟨w, held, unfounded⟩
    · exact .inl (.change (Value.field?_of_getElem?_entries there) there violation)
    · exact .inr ⟨n, item, w, there, held, unfounded⟩
  · obtain ⟨m, before, first⟩ := List.mem_take_iff_getElem.mp member
    obtain ⟨earlier, low⟩ := Nat.lt_min.mp before
    exact .inl (.duplicate (Value.field?_of_getElem?_entries there) earlier
      (List.getElem?_eq_some_iff.mpr ⟨low, first⟩) there takesFirst.address takes.address)

/-- Every issue of a document is a violation, or is about a state that the form leaves
    open. -/
theorem violation_of_mem_issues {e : ValidationError} (refused : ofValue v = .error e) (found : i ∈ e.issues) :
    Violation v i ∨ Unfounded v i := by
  rcases issues_of_refused refused with ⟨other, issues⟩ | ⟨_, issues⟩
  · rw [issues, List.mem_singleton] at found
    exact .inl (found ▸ .object other)
  · rw [issues] at found
    rcases mem_issues_check.mp found with ⟨key, version, lacks⟩ | entries | ⟨key, part, mistypes⟩ | prior | lacks | scan
    · exact .inl (.version version lacks)
    · rcases mem_issues_checkVariables.mp entries with mistypes | ⟨_, held, entry, member, other, rfl⟩
      · exact .inl (.part (by decide) mistypes)
      · exact .inl (.variableEntry held member other)
    · have optional : ["planned_values", "configuration"] ⊆
          ["variables", "planned_values", "configuration", "prior_state"] := by decide
      exact .inl (.part (optional part) mistypes)
    · rcases mem_issues_checkPriorState.mp prior with mistypes | ⟨_, held, key, version, lacks⟩
      · exact .inl (.part (by decide) mistypes)
      · exact .inl (.priorVersion held version lacks)
    · exact .inl (.changes lacks)
    · exact violation_of_mem_scan scan

/-! ### Issues about states -/

/-- The path of a state of a resource change. -/
abbrev statePath (n : Nat) (key : String) : String := FieldPath.field (FieldPath.field (changePath n) "change") key

theorem statePath_eq (n : Nat) (key : String) :
    statePath n key = FieldPath.field (changePath n) (FieldPath.field "change" key) :=
  FieldPath.field_field _ (by decide) key

theorem statePath_inj {m n : Nat} {a b : String} : statePath m a = statePath n b ↔ m = n ∧ a = b := by
  rw [statePath_eq, statePath_eq, FieldPath.field_item_inj, FieldPath.field_inj]

theorem state_ne_field : ∀ rule ∈ emptyStates,
    ∀ key ∈ ["address", "module_address", "mode", "type", "name", "provider_name", "change"],
      key ≠ FieldPath.field "change" rule.1 := by decide

theorem state_ne_actions : ∀ rule ∈ emptyStates, "actions" ≠ rule.1 := by decide

theorem state_ne_action (n : Nat) : ∀ rule ∈ emptyStates, FieldPath.item "actions" n ≠ rule.1 := by
  intro rule known same
  simp only [emptyStates, List.mem_cons, List.not_mem_nil, or_false] at known
  rcases known with rfl | rfl <;> simpa [FieldPath.item] using congrArg String.toList same

theorem action_of_state : ∀ rule ∈ emptyStates, ∀ other ∈ emptyStates, other.1 = rule.1 → other.2 = rule.2 := by
  decide

/-- A resource change has an issue about a state only because of that state. -/
theorem state_of_mem_issues {m n : Nat} {rule : String × ChangeAction} (known : rule ∈ emptyStates)
    (found : i ∈ (ResourceChange.check (changePath m) v).issues) (there : i.path = statePath n rule.1) :
    m = n ∧ ∃ w, v.field? "change" = some w ∧ Change.known w = [rule.2] ∧ ¬ w.Unset rule.1 := by
  -- All other issues of a resource change have other paths.
  rcases ResourceChange.issue_cases found with whole | lacks | ⟨key, one, path⟩ | ⟨w, held, inner⟩
  · rw [whole, statePath_eq] at there
    exact (FieldPath.item_ne_field _ _ _ _ there).elim
  · rw [lacks.path, statePath_eq, FieldPath.field_item_inj] at there
    exact absurd there.2 (state_ne_field rule known _ (by decide))
  · rw [path, statePath_eq, FieldPath.field_item_inj] at there
    exact absurd there.2 (state_ne_field rule known key (List.mem_cons_of_mem _ one))
  · rcases Change.mem_issues_check.mp inner with lacks | ⟨k, item, _, _, rfl⟩ | ⟨other, alike, sole, filled, rfl⟩
    · obtain ⟨_, key⟩ := statePath_inj.mp (lacks.path.symm.trans there)
      exact absurd key (state_ne_actions rule known)
    · obtain ⟨_, key⟩ := statePath_inj.mp ((FieldPath.item_field _ "actions" k).symm.trans there)
      exact absurd key (state_ne_action k rule known)
    · obtain ⟨same, key⟩ := statePath_inj.mp there
      exact ⟨same, w, held, action_of_state rule known other alike key ▸ sole, key ▸ filled⟩

/-- A state is reported exactly when it is not empty and the known ones among the
    actions of its change are the sole action that leaves it empty. -/
theorem statePath_mem_paths_iff {e : ValidationError} (refused : ofValue v = .error e)
    {rule : String × ChangeAction} (known : rule ∈ emptyStates) (n : Nat) :
    statePath n rule.1 ∈ e.paths ↔
      ∃ item w, (v.entries "resource_changes")[n]? = some item ∧ item.field? "change" = some w ∧
        Change.known w = [rule.2] ∧ ¬ w.Unset rule.1 := by
  rw [mem_paths_iff]
  constructor
  · rintro ⟨i, found, there⟩
    rw [mem_issues_into refused (there.trans (statePath_eq ..))] at found
    obtain ⟨m, item, listed, own | ⟨address, _, _, rfl⟩⟩ := found
    · obtain ⟨rfl, w, held, sole, filled⟩ := state_of_mem_issues known own there
      exact ⟨item, w, listed, held, sole, filled⟩
    · rw [duplicateIssue, statePath_eq, FieldPath.field_item_inj] at there
      exact absurd there.2 (state_ne_field rule known _ (by decide))
  · rintro ⟨item, w, listed, held, sole, filled⟩
    refine ⟨stateIssue (FieldPath.field (changePath n) "change") rule.1 rule.2, ?_, rfl⟩
    rw [mem_issues_into refused (statePath_eq n rule.1)]
    refine ⟨n, item, listed, .inl ?_⟩
    rw [ResourceChange.mem_issues_check (Value.isObject_of_field? held), mem_issues_checkChange]
    exact .inr (.inr (.inr (.inr (.inr ⟨w, held, Value.isObject_of_field? (Change.listed_of_known sole),
      Change.mem_issues_check.mpr (.inr (.inr ⟨rule, known, sole, filled, rfl⟩))⟩))))

/-- Every issue of a refused document is a violation of its form, save those about a
    state that its form leaves open. A state of a resource change is reported when it is
    not empty and the known ones among the actions are the sole action that leaves it
    empty. -/
theorem ofValue_reports_violations {v : Value} {e : ValidationError} (refused : ofValue v = .error e) :
    (∀ i ∈ e.issues, Violation v i ∨ Unfounded v i) ∧
    (∀ i, Violation v i → ¬ Conforms v) ∧
    ∀ rule ∈ emptyStates, ∀ n, statePath n rule.1 ∈ e.paths ↔
      ∃ item w, (v.entries "resource_changes")[n]? = some item ∧ item.field? "change" = some w ∧
        Change.known w = [rule.2] ∧ ¬ w.Unset rule.1 :=
  ⟨fun _ found => violation_of_mem_issues refused found, fun _ violation => violation.not_conforms,
    fun _ known n => statePath_mem_paths_iff refused known n⟩

/-- A plan that changes one bucket. -/
def bucketPlan (change : Value) : Value :=
  .object
    [("format_version", .string "1.2"), ("terraform_version", .string "1.6.0"),
      ("resource_changes", .array
        [.object
          [("address", .string "aws_s3_bucket.logs"), ("mode", .string "managed"), ("type", .string "aws_s3_bucket"),
            ("name", .string "logs"), ("provider_name", .string "registry.terraform.io/hashicorp/aws"),
            ("change", change)]])]

/-- A creation with a step of an unknown name, of a bucket that exists. -/
def partlyKnownCreation : Value :=
  .object
    [("actions", .array [.string "create", .string "explode"]), ("before", .object [("acl", .string "private")]),
      ("after", .object [])]

/-- The state before a change is reported although the change is no mere creation. -/
theorem state_reported_beside_unknown_action :
    partlyKnownCreation.field? "actions" = some (.array [.string "create", .string "explode"]) ∧
    ofValue (bucketPlan partlyKnownCreation) =
      .error ⟨[⟨"resource_changes[0].change.actions[1]", "unknown action \"explode\""⟩,
        ⟨"resource_changes[0].change.before", "must be null for a create-only change"⟩]⟩ :=
  ⟨rfl, rfl⟩

theorem ofValue_reports_violations_partly_known :
    ∃ e, ofValue (bucketPlan partlyKnownCreation) = .error e ∧
      statePath 0 "before" ∈ e.paths ∧ statePath 0 "after" ∉ e.paths := by
  refine ⟨_, rfl, ?_⟩
  obtain ⟨_, _, states⟩ := ofValue_reports_violations (v := bucketPlan partlyKnownCreation) rfl
  refine ⟨(states ("before", .create) (by decide) 0).mpr ⟨_, _, rfl, rfl, rfl, ?_⟩, fun found => ?_⟩
  · rintro (absent | null)
    · cases absent
    · cases null
  · obtain ⟨_, _, listed, held, sole, _⟩ := (states ("after", .delete) (by decide) 0).mp found
    cases listed
    cases held
    cases sole

end InfraAudit.Plan
