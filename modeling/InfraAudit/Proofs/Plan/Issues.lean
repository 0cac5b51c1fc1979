import InfraAudit.Proofs.Plan.Acceptance

/-!
Which issues the check of a plan finds. Every check has a lemma that lists its issues
(`mem_issues_checkAction` and its like), from those of an action up to those of a whole
document (`mem_issues_check`). A resource change is compared with the addresses of those
before it that could be read (`ResourceChange.Takes`), whatever else the document holds.
-/
namespace InfraAudit.Plan

variable {path : String} {v : Value} {i : FieldIssue}

/-! ### Changes -/

/-- The states that are empty in a mere creation and in a mere deletion, each with the
    action. -/
def emptyStates : List (String × ChangeAction) := [("before", .create), ("after", .delete)]

/-- The issue of a state that is not empty beside a sole action. -/
def stateIssue (path key : String) (only : ChangeAction) : FieldIssue :=
  ⟨FieldPath.field path key, "must be null for a " ++ only.name ++ "-only change"⟩

/-- The issue of an item that names no action. -/
def actionIssue (path : String) (n : Nat) (item : Value) : FieldIssue :=
  ⟨FieldPath.item (FieldPath.field path "actions") n, "unknown action " ++ item.compact⟩

/-- The known ones of the raw actions of a change. -/
def Change.known (v : Value) : List ChangeAction := (v.entries "actions").filterMap ChangeAction.ofValue?

theorem Change.listed_of_known {only : ChangeAction} (known : Change.known v = [only]) :
    v.field? "actions" = some (.array (v.entries "actions")) := by
  apply Value.field?_of_entries
  intro empty
  rw [Change.known, empty] at known
  cases known

theorem mem_issues_checkAction (n : Nat) :
    i ∈ (checkAction (FieldPath.field path "actions") n v).issues ↔ ¬ NamesAction v ∧ i = actionIssue path n v := by
  rw [namesAction_iff]
  unfold checkAction
  cases named : ChangeAction.ofValue? v with
  | some a =>
    have known : ∃ a : ChangeAction, v = a.encode := ⟨a, (ChangeAction.ofValue?_eq_some_iff v a).mp named⟩
    exact iff_of_false List.not_mem_nil (fun both => both.1 known)
  | none =>
    have unknown : ¬ ∃ a : ChangeAction, v = a.encode := by
      rintro ⟨a, rfl⟩
      rw [ChangeAction.ofValue?_encode] at named
      cases named
    exact List.mem_singleton.trans (and_iff_right unknown).symm

theorem value_checkAction (n : Nat) (w : Value) : (checkAction path n w).value = ChangeAction.ofValue? w := by
  unfold checkAction
  cases ChangeAction.ofValue? w <;> rfl

theorem value_forItems_checkAction (start : Nat) (items : List Value) :
    (Checked.forItems (checkAction path) start items).value = items.map ChangeAction.ofValue? := by
  induction items generalizing start with
  | nil => rfl
  | cons item rest ih =>
    rw [Checked.forItems, Checked.value_bind, Checked.value_bind, ih, value_checkAction]
    rfl

theorem mem_issues_checkEmptyState (key : String) (only : ChangeAction) (known : List ChangeAction) :
    i ∈ (checkEmptyState path key only known (v.present? key)).issues ↔
      known = [only] ∧ ¬ v.Unset key ∧ i = stateIssue path key only := by
  rw [checkEmptyState, Checked.mem_issues_require, Value.unset_iff_present?, ← and_assoc]
  refine and_congr_left' ?_
  cases v.present? key <;> simp

/-- The issues of a change: of its actions, and of a state that is not empty where the
    one known action leaves it so. -/
theorem Change.mem_issues_check :
    i ∈ (Change.check path v).issues ↔
      v.Lacks "array" "actions" path i ∨
      (∃ n item, (v.entries "actions")[n]? = some item ∧ ¬ NamesAction item ∧ i = actionIssue path n item) ∨
      ∃ rule ∈ emptyStates, Change.known v = [rule.2] ∧ ¬ v.Unset rule.1 ∧ i = stateIssue path rule.1 rule.2 := by
  simp only [Change.check, Checked.issues_bind, Checked.issues_pure, List.append_nil, List.mem_append,
    Value.getD_requireArray, value_forItems_checkAction, List.filterMap_map, Function.id_comp,
    Value.mem_issues_requireArray, Checked.mem_issues_forItems, Nat.zero_add, mem_issues_checkAction,
    mem_issues_checkEmptyState, Change.known, emptyStates, List.mem_cons, List.not_mem_nil, or_false, exists_eq_or_imp,
    exists_eq_left]

/-- A change is read when all its actions are known. -/
theorem Change.isSome_check_iff :
    (Change.check path v).value.isSome = true ↔
      ∃ items, v.field? "actions" = some (.array items) ∧ ∀ item ∈ items, NamesAction item := by
  have named : ∀ item, (ChangeAction.ofValue? item).isSome = true ↔ NamesAction item := fun item => by
    rw [namesAction_iff, Option.isSome_iff_exists]
    exact exists_congr (ChangeAction.ofValue?_eq_some_iff item)
  have made : (Change.check path v).value.isSome = ((v.fieldArray? "actions").isSome &&
      ((v.entries "actions").map ChangeAction.ofValue?).all Option.isSome) := by
    simp only [Change.check, Checked.value_bind, Checked.value_pure, Value.value_requireArray,
      value_forItems_checkAction, Value.entries]
    split <;> simp_all
  rw [made, Bool.and_eq_true, Option.isSome_iff_exists, List.all_map, List.all_eq_true]
  constructor
  · rintro ⟨⟨items, array⟩, all⟩
    have held := Value.fieldArray?_eq_some_iff.mp array
    rw [Value.entries_of_field? held] at all
    exact ⟨items, held, fun item member => (named item).mp (all item member)⟩
  · rintro ⟨items, held, all⟩
    rw [Value.entries_of_field? held]
    exact ⟨⟨items, Value.fieldArray?_eq_some_iff.mpr held⟩, fun item member => (named item).mpr (all item member)⟩

/-! ### Resource changes -/

/-- The issue of a mode that is none. -/
def modeIssue (path name : String) : FieldIssue :=
  ⟨FieldPath.field path "mode", "expected `managed` or `data`, received " ++ Text.ticked name⟩

theorem mem_issues_checkMode :
    i ∈ (checkMode path v).issues ↔
      v.Lacks "string" "mode" path i ∨
      ∃ name, v.field? "mode" = some (.string name) ∧ name ∉ ["managed", "data"] ∧ i = modeIssue path name := by
  have unknown : ∀ name, Mode.parse? name = none ↔ name ∉ ["managed", "data"] := by
    intro name
    rw [Option.eq_none_iff_forall_ne_some]
    constructor
    · intro none member
      simp only [List.mem_cons, List.not_mem_nil, or_false] at member
      rcases member with rfl | rfl
      · exact none .managed rfl
      · exact none .data rfl
    · intro other m known
      rw [Mode.parse?_eq_some_iff] at known
      cases m <;> exact other (known ▸ by decide)
  rw [checkMode, Checked.mem_issues_ifRead, Value.mem_issues_requireStr, Value.value_requireStr]
  refine or_congr_right (exists_congr fun name => ?_)
  rw [Value.fieldStr?_eq_some_iff, ← unknown]
  cases Mode.parse? name <;> simp [Checked.issue, modeIssue]

theorem mem_issues_checkChange :
    i ∈ (checkChange path v).issues ↔
      v.Lacks "object" "change" path i ∨
      ∃ w, v.field? "change" = some w ∧ w.isObject = true ∧
        i ∈ (Change.check (FieldPath.field path "change") w).issues := by
  rw [checkChange, Checked.mem_issues_ifRead, Value.mem_issues_requireObject, Value.value_requireObject]
  simp only [Option.filter_eq_some_iff, and_assoc]

/-- The issues of a resource change, in the order of its fields. -/
theorem ResourceChange.mem_issues_check (object : v.isObject = true) :
    i ∈ (ResourceChange.check path v).issues ↔
      v.Lacks "string" "address" path i ∨ v.Mistypes "string" "module_address" path i ∨
      i ∈ (checkMode path v).issues ∨ (∃ key ∈ ["type", "name", "provider_name"], v.Lacks "string" key path i) ∨
      i ∈ (checkChange path v).issues := by
  rw [ResourceChange.check, if_pos object]
  simp only [Checked.issues_bind, Checked.issues_pure, List.append_nil, List.mem_append, Value.mem_issues_requireStr,
    Value.mem_issues_optionalStr, List.mem_cons, List.not_mem_nil, or_false, exists_eq_or_imp, exists_eq_left, or_assoc]

theorem ResourceChange.mem_issues_check_of_not_object (other : v.isObject = false) :
    i ∈ (ResourceChange.check path v).issues ↔ i = .mismatch path "object" v := by
  rw [ResourceChange.check, if_neg (by simp [other])]
  exact List.mem_singleton

/-- A resource change that can be read takes its address from the later ones. -/
structure ResourceChange.Takes (v : Value) (address : String) : Prop where
  address : v.field? "address" = some (.string address)
  mode : v.field? "mode" = some (.string "managed") ∨ v.field? "mode" = some (.string "data")
  resourceType : v.HasString "type"
  name : v.HasString "name"
  providerName : v.HasString "provider_name"
  change : ∃ w items, v.field? "change" = some w ∧ w.field? "actions" = some (.array items) ∧
    ∀ item ∈ items, NamesAction item

theorem value_checkMode : (checkMode path v).value = (v.fieldStr? "mode").bind Mode.parse? := by
  rw [checkMode, Checked.value_ifRead, Value.value_requireStr]
  congr 1
  funext name
  cases Mode.parse? name <;> rfl

theorem isSome_checkChange_iff :
    (∃ c, (checkChange path v).value = some c) ↔
      ∃ w items, v.field? "change" = some w ∧ w.field? "actions" = some (.array items) ∧
        ∀ item ∈ items, NamesAction item := by
  rw [checkChange, Checked.value_ifRead, Value.value_requireObject]
  simp only [Option.bind_eq_some_iff, Option.filter_eq_some_iff]
  constructor
  · rintro ⟨c, w, ⟨held, _⟩, read⟩
    obtain ⟨items, listed, all⟩ := Change.isSome_check_iff.mp (Option.isSome_iff_exists.mpr ⟨c, read⟩)
    exact ⟨w, items, held, listed, all⟩
  · rintro ⟨w, items, held, listed, all⟩
    obtain ⟨c, read⟩ := Option.isSome_iff_exists.mp (Change.isSome_check_iff.mpr ⟨items, listed, all⟩)
    exact ⟨c, w, ⟨held, Value.isObject_of_field? listed⟩, read⟩

/-- A resource change takes an address when it is read with it. -/
theorem ResourceChange.takes_iff (address : String) :
    (ResourceChange.check path v).value.map ResourceChange.address = some address ↔
      ResourceChange.Takes v address := by
  by_cases object : v.isObject = true
  · rw [ResourceChange.check, if_pos object]
    -- The kernel is slow to see that the steps of the check are equal by definition.
    simp -implicitDefEqProofs only [Checked.value_bind, Checked.value_pure, Value.value_requireStr, value_checkMode,
      Option.bind_eq_bind, Option.map_bind, Function.comp_def, Option.map_some, Option.bind_eq_some_iff,
      Value.fieldStr?_eq_some_iff, Mode.parse?_eq_some_iff, Option.some.injEq]
    constructor
    · rintro ⟨_, addressed, m, ⟨_, moded, rfl⟩, _, typed, _, named, _, provided, change, read, rfl⟩
      exact ⟨addressed, (mode_iff v).mp ⟨m, moded⟩, ⟨_, typed⟩, ⟨_, named⟩, ⟨_, provided⟩,
        isSome_checkChange_iff.mp ⟨change, read⟩⟩
    · rintro ⟨addressed, mode, ⟨_, typed⟩, ⟨_, named⟩, ⟨_, provided⟩, actions⟩
      obtain ⟨m, moded⟩ := (mode_iff v).mpr mode
      obtain ⟨change, read⟩ := (@isSome_checkChange_iff path v).mpr actions
      exact ⟨_, addressed, m, ⟨_, moded, rfl⟩, _, typed, _, named, _, provided, change, read, rfl⟩
  · rw [ResourceChange.check, if_neg object]
    exact iff_of_false (by rintro ⟨⟩) (fun takes => object (Value.isObject_of_field? takes.address))

/-! ### Lists of resource changes -/

/-- The path of a resource change. -/
abbrev changePath (n : Nat) : String := FieldPath.item "resource_changes" n

/-- The issue of an address that an earlier resource change has. -/
def duplicateIssue (n : Nat) (address : String) : FieldIssue :=
  ⟨FieldPath.field (changePath n) "address", "duplicate address " ++ Text.ticked address⟩

theorem mem_issues_checkResourceChanges (taken : List String) (start : Nat) (items : List Value) :
    i ∈ (checkResourceChanges taken start items).issues ↔
      ∃ n item, items[n]? = some item ∧
        (i ∈ (ResourceChange.check (changePath (start + n)) item).issues ∨
          ∃ address, ResourceChange.Takes item address ∧
            (address ∈ taken ∨ ∃ earlier ∈ items.take n, ResourceChange.Takes earlier address) ∧
            i = duplicateIssue (start + n) address) := by
  induction items generalizing taken start with
  | nil => simp [checkResourceChanges]
  | cons v rest ih =>
    rw [exists_getElem?_cons, checkResourceChanges, Checked.issues_bind, List.mem_append]
    have takes := fun address => @ResourceChange.takes_iff (changePath start) v address
    have next : ∀ n, start + 1 + n = start + (n + 1) := fun n => by omega
    cases read : (ResourceChange.check (changePath start) v).value with
    | none =>
      rw [read] at takes
      have free : ∀ address, ¬ ResourceChange.Takes v address := fun address => by simp [← takes]
      simp [free, ih, next]
    | some c =>
      rw [read] at takes
      have own : ∀ address, ResourceChange.Takes v address ↔ c.address = address := fun address => by simp [← takes]
      have order : ∀ (address : String) (again : Prop),
          address ∈ c.address :: taken ∨ again ↔ address ∈ taken ∨ c.address = address ∨ again := by
        intro address again
        rw [List.mem_cons, @or_comm (address = c.address), or_assoc, eq_comm]
      simp only [Checked.issues_bind, Checked.issues_pure, List.append_nil, List.mem_append, Checked.mem_issues_require,
        Bool.not_eq_false', List.contains_iff_mem, ih, next, order, List.take_zero, List.take_succ_cons,
        List.exists_mem_cons_iff, own, List.not_mem_nil, false_and, exists_false, or_false, exists_eq_left',
        duplicateIssue, Nat.add_zero, or_assoc]

theorem mem_issues_scan (items : List Value) :
    i ∈ (checkResourceChanges [] 0 items).issues ↔
      ∃ n item, items[n]? = some item ∧
        (i ∈ (ResourceChange.check (changePath n) item).issues ∨
          ∃ address, ResourceChange.Takes item address ∧
            (∃ earlier ∈ items.take n, ResourceChange.Takes earlier address) ∧ i = duplicateIssue n address) := by
  simp only [mem_issues_checkResourceChanges, Nat.zero_add, List.not_mem_nil, false_or]

/-! ### Documents -/

/-- The issue of a variable that is no object. -/
def variableIssue (name : String) : FieldIssue :=
  ⟨FieldPath.field "variables" name, "expected object with a `value` field"⟩

/-- The fields of a document that are checked. -/
def documentKeys : List String :=
  ["format_version", "terraform_version", "variables", "planned_values", "configuration", "prior_state",
    "resource_changes"]

/-- The versions that a document and a state are to have. -/
abbrev versionKeys : List String := ["format_version", "terraform_version"]

theorem mem_issues_checkVariables :
    i ∈ (checkVariables v).issues ↔
      v.Mistypes "object" "variables" "" i ∨
      ∃ fields, v.field? "variables" = some (.object fields) ∧
        ∃ entry ∈ fields, entry.2.isObject = false ∧ i = variableIssue entry.1 := by
  simp only [checkVariables, Checked.issues_bind, Checked.issues_pure, List.append_nil, List.mem_append,
    Value.mem_issues_optionalObject, Checked.mem_issues_forItems, checkVariable, Checked.mem_issues_require]
  refine or_congr_right ?_
  cases read : (v.optionalObject "variables" "").value with
  | none =>
    have other : ∀ fields, v.field? "variables" ≠ some (.object fields) := by
      intro fields held
      rw [Value.value_optionalObject_eq_some_iff.mpr held] at read
      cases read
    simp [other]
  | some fields =>
    have held := Value.value_optionalObject_eq_some_iff.mp read
    simp only [held, Option.getD_some, Option.some.injEq, Value.object.injEq, exists_eq_left', List.mem_iff_getElem?]
    constructor
    · rintro ⟨n, entry, found, other, same⟩
      exact ⟨entry, ⟨n, found⟩, other, same⟩
    · rintro ⟨entry, ⟨n, found⟩, other, same⟩
      exact ⟨n, entry, found, other, same⟩

theorem mem_issues_checkPriorState :
    i ∈ (checkPriorState v).issues ↔
      v.Mistypes "object" "prior_state" "" i ∨
      ∃ fields, v.field? "prior_state" = some (.object fields) ∧
        ∃ key ∈ versionKeys, (Value.object fields).Lacks "string" key "prior_state" i := by
  rw [checkPriorState, Checked.issues_bind, List.mem_append, Value.mem_issues_optionalObject]
  refine or_congr_right ?_
  simp only [← @Value.value_optionalObject_eq_some_iff _ _ ""]
  cases (v.optionalObject "prior_state" "").value with
  | none => simp
  | some fields => simp [Value.mem_issues_requireStr, versionKeys]

/-- The issues of a document, in the order of its fields. -/
theorem mem_issues_check :
    i ∈ (check v).issues ↔
      (∃ key ∈ versionKeys, v.Lacks "string" key "" i) ∨ i ∈ (checkVariables v).issues ∨
      (∃ key ∈ ["planned_values", "configuration"], v.Mistypes "object" key "" i) ∨ i ∈ (checkPriorState v).issues ∨
      v.Lacks "array" "resource_changes" "" i ∨
      i ∈ (checkResourceChanges [] 0 (v.entries "resource_changes")).issues := by
  simp only [check, Checked.issues_bind, Checked.issues_pure, List.append_nil, List.mem_append,
    Value.mem_issues_requireStr, Value.mem_issues_optionalObject, Value.mem_issues_requireArray,
    Value.getD_requireArray, versionKeys, List.mem_cons, List.not_mem_nil, or_false, exists_eq_or_imp, exists_eq_left, or_assoc]

/-! ### Where issues stand -/

theorem Change.path_of_mem_issues (found : i ∈ (Change.check path v).issues) :
    ∃ key, i.path = FieldPath.field path key := by
  rcases Change.mem_issues_check.mp found with lacks | ⟨n, item, _, _, rfl⟩ | ⟨rule, _, _, _, rfl⟩
  · exact ⟨_, lacks.path⟩
  · exact ⟨_, FieldPath.item_field path "actions" n⟩
  · exact ⟨_, rfl⟩

/-- Where the issues of a resource change stand. -/
theorem ResourceChange.issue_cases (found : i ∈ (ResourceChange.check path v).issues) :
    i.path = path ∨ v.Lacks "string" "address" path i ∨
    (∃ key ∈ ["module_address", "mode", "type", "name", "provider_name", "change"], i.path = FieldPath.field path key) ∨
    ∃ w, v.field? "change" = some w ∧ i ∈ (Change.check (FieldPath.field path "change") w).issues := by
  cases object : v.isObject with
  | false =>
    obtain rfl := (ResourceChange.mem_issues_check_of_not_object object).mp found
    exact .inl rfl
  | true =>
    rcases (ResourceChange.mem_issues_check object).mp found with lacks | mistypes | mode | ⟨key, one, lacks⟩ | change
    · exact .inr (.inl lacks)
    · exact .inr (.inr (.inl ⟨_, by decide, mistypes.path⟩))
    · rcases mem_issues_checkMode.mp mode with lacks | ⟨name, _, _, rfl⟩
      · exact .inr (.inr (.inl ⟨_, by decide, lacks.path⟩))
      · exact .inr (.inr (.inl ⟨_, by decide, rfl⟩))
    · have known : ["type", "name", "provider_name"] ⊆
          ["module_address", "mode", "type", "name", "provider_name", "change"] := by decide
      exact .inr (.inr (.inl ⟨key, known one, lacks.path⟩))
    · rcases mem_issues_checkChange.mp change with lacks | ⟨w, held, _, inner⟩
      · exact .inr (.inr (.inl ⟨_, by decide, lacks.path⟩))
      · exact .inr (.inr (.inr ⟨w, held, inner⟩))

/-- A path that leads into a resource change. -/
def IntoChange (path : String) : Prop := "resource_changes[".toList <+: path.toList

instance (path : String) : Decidable (IntoChange path) :=
  inferInstanceAs (Decidable ("resource_changes[".toList <+: path.toList))

theorem intoChange_field (n : Nat) (key : String) : IntoChange (FieldPath.field (changePath n) key) := by
  rw [FieldPath.field_item]
  exact ⟨(toString n).toList ++ ("]" ++ ("." ++ key)).toList, by simp [FieldPath.item, String.toList_append]⟩

theorem not_intoChange_part : ∀ key ∈ documentKeys, ¬ IntoChange (FieldPath.field "" key) := by decide

theorem not_intoChange_priorVersion : ∀ key ∈ versionKeys, ¬ IntoChange (FieldPath.field "prior_state" key) := by
  decide

theorem not_intoChange_variableIssue (name : String) : ¬ IntoChange (variableIssue name).path := by
  rintro ⟨rest, same⟩
  simp [variableIssue, FieldPath.field] at same

theorem mem_paths_iff {e : ValidationError} : path ∈ e.paths ↔ ∃ i ∈ e.issues, i.path = path := List.mem_map

theorem issues_of_refused {e : ValidationError} (refused : ofValue v = .error e) :
    v.isObject = false ∧ e.issues = [.mismatch "" "object" v] ∨ v.isObject = true ∧ e.issues = (check v).issues := by
  unfold ofValue at refused
  cases object : v.isObject with
  | false =>
    rw [object, if_neg Bool.false_ne_true] at refused
    cases refused
    exact .inl ⟨rfl, rfl⟩
  | true =>
    rw [object, if_pos rfl, Checked.finish] at refused
    refine .inr ⟨rfl, ?_⟩
    cases issues : (check v).issues with
    | nil =>
      rw [issues] at refused
      cases refused
    | cons first rest =>
      rw [issues] at refused
      cases refused
      rfl

/-- The issues in the fields of the resource changes of a refused document. -/
theorem mem_issues_into {e : ValidationError} (refused : ofValue v = .error e) {n : Nat} {key : String}
    (there : i.path = FieldPath.field (changePath n) key) :
    i ∈ e.issues ↔
      ∃ m item, (v.entries "resource_changes")[m]? = some item ∧
        (i ∈ (ResourceChange.check (changePath m) item).issues ∨
          ∃ address, ResourceChange.Takes item address ∧
            (∃ earlier ∈ (v.entries "resource_changes").take m, ResourceChange.Takes earlier address) ∧
            i = duplicateIssue m address) := by
  have into : IntoChange i.path := there ▸ intoChange_field n key
  rw [← mem_issues_scan]
  rcases issues_of_refused refused with ⟨other, issues⟩ | ⟨_, issues⟩
  · have none : v.entries "resource_changes" = [] := by
      cases v with
      | object fields => cases other
      | _ => rfl
    rw [issues, none, List.mem_singleton]
    refine iff_of_false ?_ List.not_mem_nil
    rintro rfl
    exact absurd into (show ¬ IntoChange "" by decide)
  · rw [issues, mem_issues_check]
    constructor
    · have versions : versionKeys ⊆ documentKeys := by decide
      have parts : ["planned_values", "configuration"] ⊆ documentKeys := by decide
      rintro (⟨key, version, lacks⟩ | entries | ⟨key, part, mistypes⟩ | prior | lacks | scan)
      · exact absurd (lacks.path ▸ into) (not_intoChange_part key (versions version))
      · rcases mem_issues_checkVariables.mp entries with mistypes | ⟨_, _, entry, _, _, rfl⟩
        · exact absurd (mistypes.path ▸ into) (not_intoChange_part _ (by decide))
        · exact absurd into (not_intoChange_variableIssue entry.1)
      · exact absurd (mistypes.path ▸ into) (not_intoChange_part key (parts part))
      · rcases mem_issues_checkPriorState.mp prior with mistypes | ⟨_, _, key, version, lacks⟩
        · exact absurd (mistypes.path ▸ into) (not_intoChange_part _ (by decide))
        · exact absurd (lacks.path ▸ into) (not_intoChange_priorVersion key version)
      · exact absurd (lacks.path ▸ into) (not_intoChange_part _ (by decide))
      · exact scan
    · intro scan
      exact .inr (.inr (.inr (.inr (.inr scan))))

end InfraAudit.Plan
