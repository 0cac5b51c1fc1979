import InfraAudit.Plan.Basic
import InfraAudit.Proofs.Validation
import Mathlib.Data.List.Forall2

/-!
Which documents are plans, and which plans they are. A document is accepted when it
has the form that `Plan.Conforms` describes, without reference to how it is checked;
and an accepted document is read faithfully (`Plan.Reads`): every field of the plan
holds what the document holds there.
-/
namespace InfraAudit.Plan

/-! ### The form of a document -/

/-- A value that names a raw action. -/
def NamesAction (v : Value) : Prop :=
  ∃ name ∈ ["no-op", "create", "read", "update", "delete"], v = .string name

/-- The form of a change: the actions are known, a mere creation has no state before
    it and a mere deletion none after it. -/
structure Change.Conforms (v : Value) : Prop where
  actions : ∃ items, v.field? "actions" = some (.array items) ∧ ∀ item ∈ items, NamesAction item
  before : v.field? "actions" = some (.array [.string "create"]) → v.Unset "before"
  after : v.field? "actions" = some (.array [.string "delete"]) → v.Unset "after"

/-- The form of a resource change. -/
structure ResourceChange.Conforms (v : Value) : Prop where
  object : v.isObject = true
  address : v.HasString "address"
  moduleAddress : v.MaybeString "module_address"
  mode : v.field? "mode" = some (.string "managed") ∨ v.field? "mode" = some (.string "data")
  resourceType : v.HasString "type"
  name : v.HasString "name"
  providerName : v.HasString "provider_name"
  change : ∃ w, v.field? "change" = some w ∧ w.isObject = true ∧ Change.Conforms w

/-- The form of the list of resource changes: their addresses are distinct. -/
def ConformingChanges (items : List Value) : Prop :=
  (∀ item ∈ items, ResourceChange.Conforms item) ∧
  items.Pairwise (fun a b => a.field? "address" ≠ b.field? "address")

/-- The form of a plan. -/
structure Conforms (v : Value) : Prop where
  object : v.isObject = true
  formatVersion : v.HasString "format_version"
  terraformVersion : v.HasString "terraform_version"
  variableValues : v.MaybeObject "variables"
  variableEntries : ∀ fields, v.field? "variables" = some (.object fields) →
    ∀ entry ∈ fields, entry.2.isObject = true
  plannedValues : v.MaybeObject "planned_values"
  configuration : v.MaybeObject "configuration"
  priorState : v.MaybeObject "prior_state"
  priorVersions : ∀ fields, v.field? "prior_state" = some (.object fields) →
    (Value.object fields).HasString "format_version" ∧ (Value.object fields).HasString "terraform_version"
  resourceChanges : ∃ items, v.field? "resource_changes" = some (.array items) ∧ ConformingChanges items

/-! ### What a plan holds -/

/-- A change holds what a value does; a state that is null reads as unset. -/
structure Change.Reads (v : Value) (c : Change) : Prop where
  actions : v.field? "actions" = some (.array (c.actions.map (fun a => .string a.name)))
  before : c.before = v.present? "before"
  after : c.after = v.present? "after"
  afterUnknown : c.afterUnknown = v.field? "after_unknown"
  beforeSensitive : c.beforeSensitive = v.field? "before_sensitive"
  afterSensitive : c.afterSensitive = v.field? "after_sensitive"

/-- A resource change holds what a value does. -/
structure ResourceChange.Reads (v : Value) (c : ResourceChange) : Prop where
  address : v.field? "address" = some (.string c.address)
  moduleAddress : v.present? "module_address" = c.moduleAddress.map Value.string
  mode : v.field? "mode" = some (.string c.mode.name)
  resourceType : v.field? "type" = some (.string c.resourceType)
  name : v.field? "name" = some (.string c.name)
  providerName : v.field? "provider_name" = some (.string c.providerName)
  change : ∃ w, v.field? "change" = some w ∧ Change.Reads w c.change

/-- A plan holds what a document does, with the resource changes in their order. -/
structure Reads (v : Value) (p : Plan) : Prop where
  formatVersion : v.field? "format_version" = some (.string p.formatVersion)
  terraformVersion : v.field? "terraform_version" = some (.string p.terraformVersion)
  variableValues : v.present? "variables" = p.variableValues.map Value.object
  plannedValues : v.present? "planned_values" = p.plannedValues.map Value.object
  configuration : v.present? "configuration" = p.configuration.map Value.object
  priorState : v.present? "prior_state" = p.priorState.map Value.object
  resourceChanges : ∃ items, v.field? "resource_changes" = some (.array items) ∧
    List.Forall₂ ResourceChange.Reads items p.resourceChanges

/-! ### Actions and modes -/

theorem mem_of_lookup {α : Type} {table : List (String × α)} {name : String} {a : α}
    (found : table.lookup name = some a) : (name, a) ∈ table := by
  obtain ⟨front, back, split, _⟩ := List.lookup_eq_some_iff.mp found
  exact split ▸ List.mem_append_right front List.mem_cons_self

theorem ChangeAction.ofValue?_eq_some_iff (v : Value) (a : ChangeAction) :
    ofValue? v = some a ↔ v = a.encode := by
  constructor
  · intro named
    obtain ⟨name, text, known⟩ := Option.bind_eq_some_iff.mp named
    have isText : v = .string name := by
      cases v with
      | string s => exact congrArg Value.string (Option.some.inj text)
      | _ => cases text
    have member := mem_of_lookup known
    rw [isText]
    simp only [names, List.mem_cons, Prod.mk.injEq, List.not_mem_nil, or_false] at member
    rcases member with ⟨rfl, rfl⟩ | ⟨rfl, rfl⟩ | ⟨rfl, rfl⟩ | ⟨rfl, rfl⟩ | ⟨rfl, rfl⟩ <;> rfl
  · rintro rfl
    exact ofValue?_encode a

theorem namesAction_iff (v : Value) : NamesAction v ↔ ∃ a : ChangeAction, v = a.encode := by
  constructor
  · rintro ⟨name, known, rfl⟩
    simp only [List.mem_cons, List.not_mem_nil, or_false] at known
    rcases known with rfl | rfl | rfl | rfl | rfl
    · exact ⟨.noOp, rfl⟩
    · exact ⟨.create, rfl⟩
    · exact ⟨.read, rfl⟩
    · exact ⟨.update, rfl⟩
    · exact ⟨.delete, rfl⟩
  · rintro ⟨a, rfl⟩
    cases a <;> exact ⟨_, by decide, rfl⟩

theorem Mode.parse?_eq_some_iff (name : String) (m : Mode) : parse? name = some m ↔ name = m.name := by
  constructor
  · intro known
    have member := mem_of_lookup known
    simp only [List.mem_cons, Prod.mk.injEq, List.not_mem_nil, or_false] at member
    rcases member with ⟨rfl, rfl⟩ | ⟨rfl, rfl⟩ <;> rfl
  · rintro rfl
    cases m <;> rfl

theorem ChangeAction.encode_injective : Function.Injective ChangeAction.encode := by
  intro a b same
  have read := ofValue?_encode a
  rw [same, ofValue?_encode] at read
  exact (Option.some.inj read).symm

/-! ### Changes -/

theorem issues_checkAction (path : String) (i : Nat) (v : Value) :
    (checkAction path i v).issues = [] ↔ NamesAction v := by
  rw [namesAction_iff]
  unfold checkAction
  cases named : ChangeAction.ofValue? v with
  | some a => exact iff_of_true rfl ⟨a, (ChangeAction.ofValue?_eq_some_iff v a).mp named⟩
  | none =>
    refine iff_of_false (List.cons_ne_nil _ _) ?_
    rintro ⟨a, rfl⟩
    rw [ChangeAction.ofValue?_encode] at named
    cases named

theorem checkAction_encode (path : String) (i : Nat) (a : ChangeAction) :
    checkAction path i a.encode = ⟨some a, []⟩ := by
  rw [checkAction, ChangeAction.ofValue?_encode]
  rfl

theorem forItems_checkAction (path : String) (i : Nat) (actions : List ChangeAction) :
    Checked.forItems (checkAction path) i (actions.map ChangeAction.encode) = ⟨actions.map some, []⟩ := by
  induction actions generalizing i with
  | nil => rfl
  | cons a rest ih =>
    rw [List.map_cons, Checked.forItems, checkAction_encode, ih]
    rfl

theorem exists_encoded {items : List Value} (all : ∀ item ∈ items, NamesAction item) :
    ∃ actions : List ChangeAction, items = actions.map ChangeAction.encode := by
  induction items with
  | nil => exact ⟨[], rfl⟩
  | cons item rest ih =>
    obtain ⟨first, later⟩ := List.forall_mem_cons.mp all
    obtain ⟨a, rfl⟩ := (namesAction_iff item).mp first
    obtain ⟨actions, rfl⟩ := ih later
    exact ⟨a :: actions, rfl⟩

theorem issues_checkEmptyState (path key : String) (only : ChangeAction) (known : List ChangeAction)
    (v : Value) :
    (checkEmptyState path key only known (v.present? key)).issues = [] ↔ (known = [only] → v.Unset key) := by
  rw [checkEmptyState, Checked.issues_require, Value.unset_iff_present?]
  cases v.present? key <;> simp

/-- The check of a change all of whose actions are known. -/
theorem Change.check_of_actions (path : String) {v : Value} {actions : List ChangeAction}
    (listed : v.field? "actions" = some (.array (actions.map ChangeAction.encode))) :
    Change.check path v =
      ⟨some
        { actions, before := v.present? "before", after := v.present? "after"
          afterUnknown := v.field? "after_unknown"
          beforeSensitive := v.field? "before_sensitive"
          afterSensitive := v.field? "after_sensitive" },
        (checkEmptyState path "before" .create actions (v.present? "before")).issues ++
          (checkEmptyState path "after" .delete actions (v.present? "after")).issues⟩ := by
  have known : (actions.map some).filterMap id = actions := by
    rw [List.filterMap_map]
    exact List.filterMap_some
  have all : (actions.map some).all Option.isSome = true := by
    rw [List.all_map, List.all_eq_true]
    exact fun a _ => rfl
  apply Checked.ext
  · simp only [Change.check, Checked.value_bind, Checked.value_pure, Value.requireArray_of_field? path listed,
      Option.getD_some, forItems_checkAction, known, all, Option.isSome_some, Bool.and_self, ↓reduceIte]
  · simp only [Change.check, Checked.issues_bind, Checked.issues_pure, List.append_nil, List.nil_append,
      Value.requireArray_of_field? path listed, Option.getD_some, forItems_checkAction, known]

theorem Change.conforms_of_check {path : String} {v : Value} (clean : (Change.check path v).issues = []) :
    Change.Conforms v := by
  have parts := clean
  simp only [Change.check, Checked.issues_bind, List.append_eq_nil_iff] at parts
  obtain ⟨isList, named, _⟩ := parts
  obtain ⟨items, listed⟩ := (Value.issues_requireArray ..).mp isList
  rw [Value.requireArray_of_field? path listed] at named
  have all := (Checked.issues_forItems (issues_checkAction _) 0 items).mp named
  obtain ⟨actions, rfl⟩ := exists_encoded all
  rw [Change.check_of_actions path listed, List.append_eq_nil_iff, issues_checkEmptyState,
    issues_checkEmptyState] at clean
  obtain ⟨noBefore, noAfter⟩ := clean
  -- The raw actions are the given one alone when the known actions are.
  have sole (a : ChangeAction) (only : v.field? "actions" = some (.array [a.encode])) : actions = [a] := by
    rw [listed] at only
    exact List.map_injective_iff.mpr ChangeAction.encode_injective (Value.array.inj (Option.some.inj only))
  exact ⟨⟨_, listed, all⟩, fun only => noBefore (sole .create only), fun only => noAfter (sole .delete only)⟩

theorem Change.check_of_conforms (path : String) {v : Value} (ok : Change.Conforms v) :
    ∃ c, Change.check path v = ⟨some c, []⟩ ∧ Change.Reads v c := by
  obtain ⟨items, listed, all⟩ := ok.actions
  obtain ⟨actions, rfl⟩ := exists_encoded all
  have noBefore : (checkEmptyState path "before" .create actions (v.present? "before")).issues = [] := by
    rw [issues_checkEmptyState]
    rintro rfl
    exact ok.before listed
  have noAfter : (checkEmptyState path "after" .delete actions (v.present? "after")).issues = [] := by
    rw [issues_checkEmptyState]
    rintro rfl
    exact ok.after listed
  rw [Change.check_of_actions path listed, noBefore, noAfter]
  exact ⟨_, rfl, listed, rfl, rfl, rfl, rfl, rfl⟩

/-! ### Resource changes -/

theorem mode_iff (v : Value) :
    (∃ m : Mode, v.field? "mode" = some (.string m.name)) ↔
      v.field? "mode" = some (.string "managed") ∨ v.field? "mode" = some (.string "data") := by
  constructor
  · rintro ⟨m, held⟩
    cases m with
    | managed => exact .inl held
    | data => exact .inr held
  · rintro (held | held)
    · exact ⟨.managed, held⟩
    · exact ⟨.data, held⟩

theorem checkMode_of_field? (path : String) {v : Value} {m : Mode}
    (held : v.field? "mode" = some (.string m.name)) : checkMode path v = ⟨some m, []⟩ := by
  have known : Mode.parse? m.name = some m := (Mode.parse?_eq_some_iff m.name m).mpr rfl
  simp only [checkMode, Checked.ifRead, Value.requireStr_of_field? path held, bind, Checked.andThen, known]
  rfl

theorem mode_of_checkMode {path : String} {v : Value} (clean : (checkMode path v).issues = []) :
    ∃ m : Mode, v.field? "mode" = some (.string m.name) := by
  rw [checkMode, Checked.issues_ifRead] at clean
  obtain ⟨text, next⟩ := clean
  obtain ⟨name, held⟩ := (Value.issues_requireStr ..).mp text
  rw [Value.requireStr_of_field? path held] at next
  have known := next name rfl
  cases named : Mode.parse? name with
  | none =>
    simp only [named] at known
    cases known
  | some m => exact ⟨m, (Mode.parse?_eq_some_iff name m).mp named ▸ held⟩

theorem change_of_checkChange {path : String} {v : Value} (clean : (checkChange path v).issues = []) :
    ∃ w, v.field? "change" = some w ∧ w.isObject = true ∧ Change.Conforms w := by
  rw [checkChange, Checked.issues_ifRead] at clean
  obtain ⟨isChange, next⟩ := clean
  obtain ⟨w, held, object⟩ := (Value.issues_requireObject ..).mp isChange
  rw [Value.requireObject_of_field? path held object] at next
  exact ⟨w, held, object, Change.conforms_of_check (next w rfl)⟩

theorem checkChange_of_field? (path : String) {v w : Value} (held : v.field? "change" = some w)
    (object : w.isObject = true) : checkChange path v = Change.check (FieldPath.field path "change") w := by
  rw [checkChange, Checked.ifRead, Value.requireObject_of_field? path held object]
  rfl

theorem ResourceChange.conforms_of_check {path : String} {v : Value}
    (clean : (ResourceChange.check path v).issues = []) : ResourceChange.Conforms v := by
  unfold ResourceChange.check at clean
  by_cases object : v.isObject = true
  · rw [if_pos object] at clean
    simp only [Checked.issues_bind, List.append_eq_nil_iff, Value.issues_requireStr,
      Value.issues_optionalStr] at clean
    obtain ⟨address, moduleAddress, mode, resourceType, name, providerName, change, _⟩ := clean
    exact ⟨object, address, moduleAddress, (mode_iff v).mp (mode_of_checkMode mode), resourceType, name,
      providerName, change_of_checkChange change⟩
  · rw [if_neg object] at clean
    cases clean

theorem ResourceChange.check_of_conforms (path : String) {v : Value} (ok : ResourceChange.Conforms v) :
    ∃ c, ResourceChange.check path v = ⟨some c, []⟩ ∧ ResourceChange.Reads v c := by
  obtain ⟨address, hasAddress⟩ := ok.address
  obtain ⟨moduleAddress, hasModule, modulePresent⟩ := Value.optionalStr_of_maybe path ok.moduleAddress
  obtain ⟨m, hasMode⟩ := (mode_iff v).mpr ok.mode
  obtain ⟨resourceType, hasType⟩ := ok.resourceType
  obtain ⟨name, hasName⟩ := ok.name
  obtain ⟨provider, hasProvider⟩ := ok.providerName
  obtain ⟨w, hasChange, object, conforms⟩ := ok.change
  obtain ⟨c, changeRead, reads⟩ := Change.check_of_conforms (FieldPath.field path "change") conforms
  refine ⟨⟨address, moduleAddress, m, resourceType, name, provider, c⟩, ?_, hasAddress, modulePresent,
    hasMode, hasType, hasName, hasProvider, w, hasChange, reads⟩
  rw [ResourceChange.check, if_pos ok.object, Value.requireStr_of_field? path hasAddress, hasModule,
    checkMode_of_field? path hasMode, Value.requireStr_of_field? path hasType,
    Value.requireStr_of_field? path hasName, Value.requireStr_of_field? path hasProvider,
    checkChange_of_field? path hasChange object, changeRead]
  rfl

/-! ### The list of resource changes -/

/-- What the scan of the resource changes does with one that has the right form. -/
theorem checkResourceChanges_cons (taken : List String) (i : Nat) {v : Value} (rest : List Value)
    {c : ResourceChange}
    (read : ResourceChange.check (FieldPath.item "resource_changes" i) v = ⟨some c, []⟩) :
    (checkResourceChanges taken i (v :: rest)).value =
        c :: (checkResourceChanges (c.address :: taken) (i + 1) rest).value ∧
      ((checkResourceChanges taken i (v :: rest)).issues = [] ↔
        c.address ∉ taken ∧ (checkResourceChanges (c.address :: taken) (i + 1) rest).issues = []) := by
  simp only [checkResourceChanges, Checked.value_bind, Checked.issues_bind, read, Checked.value_pure,
    Checked.issues_pure, List.nil_append, List.append_nil, List.append_eq_nil_iff, Checked.issues_require,
    Bool.not_eq_true', List.contains_eq_mem, decide_eq_false_iff_not, and_self]

/-- What the scan accepts after resource changes that took some addresses: each item
    is of the right form, and no address occurs twice. -/
theorem conforms_of_checkResourceChanges {taken : List String} {i : Nat} {items : List Value}
    (clean : (checkResourceChanges taken i items).issues = []) :
    ConformingChanges items ∧
      ∀ item ∈ items, ∀ address ∈ taken, item.field? "address" ≠ some (.string address) := by
  induction items generalizing taken i with
  | nil => exact ⟨⟨by simp, .nil⟩, by simp⟩
  | cons v rest ih =>
    have first : (ResourceChange.check (FieldPath.item "resource_changes" i) v).issues = [] := by
      rw [checkResourceChanges, Checked.issues_bind, List.append_eq_nil_iff] at clean
      exact clean.1
    have ok := ResourceChange.conforms_of_check first
    obtain ⟨c, read, reads⟩ := ResourceChange.check_of_conforms _ ok
    obtain ⟨free, later⟩ := (checkResourceChanges_cons taken i rest read).2.mp clean
    obtain ⟨⟨all, apart⟩, fresh⟩ := ih later
    refine ⟨⟨List.forall_mem_cons.mpr ⟨ok, all⟩, List.pairwise_cons.mpr ⟨?_, apart⟩⟩, ?_⟩
    · intro item member
      rw [reads.address]
      exact (fresh item member c.address List.mem_cons_self).symm
    · intro item member address known
      rcases List.mem_cons.mp member with rfl | member
      · rw [reads.address]
        intro same
        cases same
        exact free known
      · exact fresh item member address (List.mem_cons_of_mem _ known)

theorem checkResourceChanges_of_conforms {taken : List String} (i : Nat) {items : List Value}
    (ok : ConformingChanges items)
    (fresh : ∀ item ∈ items, ∀ address ∈ taken, item.field? "address" ≠ some (.string address)) :
    (checkResourceChanges taken i items).issues = [] ∧
      List.Forall₂ ResourceChange.Reads items (checkResourceChanges taken i items).value := by
  induction items generalizing taken i with
  | nil => exact ⟨rfl, .nil⟩
  | cons v rest ih =>
    obtain ⟨first, all⟩ := List.forall_mem_cons.mp ok.1
    obtain ⟨differ, apart⟩ := List.pairwise_cons.mp ok.2
    obtain ⟨freshFirst, freshRest⟩ := List.forall_mem_cons.mp fresh
    obtain ⟨c, read, reads⟩ := ResourceChange.check_of_conforms _ first
    have free : c.address ∉ taken := fun known => freshFirst c.address known reads.address
    have freshLater : ∀ item ∈ rest, ∀ address ∈ c.address :: taken,
        item.field? "address" ≠ some (.string address) := by
      intro item member
      refine List.forall_mem_cons.mpr ⟨?_, freshRest item member⟩
      rw [← reads.address]
      exact (differ item member).symm
    obtain ⟨clean, later⟩ := ih (i + 1) ⟨all, apart⟩ freshLater
    obtain ⟨value, issues⟩ := checkResourceChanges_cons taken i rest read
    rw [value]
    exact ⟨issues.mpr ⟨free, clean⟩, .cons reads later⟩

/-! ### Documents -/

theorem issues_checkVariable (entry : String × Value) :
    (checkVariable entry).issues = [] ↔ entry.2.isObject = true :=
  Checked.issues_require _ _

theorem variables_of_check {v : Value} (clean : (checkVariables v).issues = []) :
    v.MaybeObject "variables" ∧
      ∀ fields, v.field? "variables" = some (.object fields) → ∀ entry ∈ fields, entry.2.isObject = true := by
  simp only [checkVariables, Checked.issues_bind, List.append_eq_nil_iff, Value.issues_optionalObject] at clean
  obtain ⟨maybe, entries, _⟩ := clean
  refine ⟨maybe, fun fields held => ?_⟩
  rw [Value.optionalObject_of_field? "" held] at entries
  exact (Checked.issues_forItems (fun _ => issues_checkVariable) 0 fields).mp entries

theorem checkVariables_of_conforms {v : Value} (ok : Conforms v) :
    ∃ fields : Option Fields, checkVariables v = ⟨fields, []⟩ ∧
      v.present? "variables" = fields.map Value.object := by
  rcases ok.variableValues with unset | ⟨fields, held⟩
  · refine ⟨none, ?_, (Value.unset_iff_present? v _).mp unset⟩
    rw [checkVariables, Value.optionalObject_of_unset "" unset]
    rfl
  · have clean := (Checked.issues_forItems (fun _ => issues_checkVariable) 0 fields).mpr (ok.variableEntries fields held)
    refine ⟨some fields, ?_, Value.present?_of_field? held rfl⟩
    rw [checkVariables, Value.optionalObject_of_field? "" held]
    apply Checked.ext
    · rfl
    · rw [Checked.issues_bind, Checked.issues_bind, Option.getD_some, clean]
      rfl

theorem priorState_of_check {v : Value} (clean : (checkPriorState v).issues = []) :
    v.MaybeObject "prior_state" ∧
      ∀ fields, v.field? "prior_state" = some (.object fields) →
        (Value.object fields).HasString "format_version" ∧
        (Value.object fields).HasString "terraform_version" := by
  rw [checkPriorState, Checked.issues_bind, List.append_eq_nil_iff, Value.issues_optionalObject] at clean
  obtain ⟨maybe, versions⟩ := clean
  refine ⟨maybe, fun fields held => ?_⟩
  rw [Value.optionalObject_of_field? "" held] at versions
  simp only [Checked.issues_bind, List.append_eq_nil_iff, Value.issues_requireStr] at versions
  exact ⟨versions.1, versions.2.1⟩

theorem checkPriorState_of_conforms {v : Value} (ok : Conforms v) :
    ∃ fields : Option Fields, checkPriorState v = ⟨fields, []⟩ ∧
      v.present? "prior_state" = fields.map Value.object := by
  rcases ok.priorState with unset | ⟨fields, held⟩
  · refine ⟨none, ?_, (Value.unset_iff_present? v _).mp unset⟩
    rw [checkPriorState, Value.optionalObject_of_unset "" unset]
    rfl
  · obtain ⟨⟨format, hasFormat⟩, ⟨terraform, hasTerraform⟩⟩ := ok.priorVersions fields held
    refine ⟨some fields, ?_, Value.present?_of_field? held rfl⟩
    rw [checkPriorState, Value.optionalObject_of_field? "" held]
    apply Checked.ext
    · rfl
    · simp only [Checked.issues_bind, Value.requireStr_of_field? "prior_state" hasFormat,
        Value.requireStr_of_field? "prior_state" hasTerraform, Checked.issues_pure, List.append_nil]

theorem conforms_of_check {v : Value} (object : v.isObject = true) (clean : (check v).issues = []) :
    Conforms v := by
  simp only [check, Checked.issues_bind, List.append_eq_nil_iff, Value.issues_requireStr,
    Value.issues_optionalObject, Value.issues_requireArray] at clean
  obtain ⟨format, terraform, values, planned, configuration, prior, ⟨items, listed⟩, changes, _⟩ := clean
  obtain ⟨maybeValues, entries⟩ := variables_of_check values
  obtain ⟨maybePrior, versions⟩ := priorState_of_check prior
  rw [Value.requireArray_of_field? "" listed] at changes
  exact ⟨object, format, terraform, maybeValues, entries, planned, configuration, maybePrior, versions,
    items, listed, (conforms_of_checkResourceChanges changes).1⟩

theorem check_of_conforms {v : Value} (ok : Conforms v) : ∃ p, check v = ⟨p, []⟩ ∧ Reads v p := by
  obtain ⟨format, hasFormat⟩ := ok.formatVersion
  obtain ⟨terraform, hasTerraform⟩ := ok.terraformVersion
  obtain ⟨values, hasValues, valuesPresent⟩ := checkVariables_of_conforms ok
  obtain ⟨planned, hasPlanned, plannedPresent⟩ := Value.optionalObject_of_maybe "" ok.plannedValues
  obtain ⟨configuration, hasConfiguration, configurationPresent⟩ :=
    Value.optionalObject_of_maybe "" ok.configuration
  obtain ⟨prior, hasPrior, priorPresent⟩ := checkPriorState_of_conforms ok
  obtain ⟨items, listed, conform⟩ := ok.resourceChanges
  obtain ⟨clean, reads⟩ := @checkResourceChanges_of_conforms [] 0 items conform (by simp)
  refine ⟨⟨format, terraform, values, planned, (checkResourceChanges [] 0 items).value, configuration, prior⟩,
    ?_, hasFormat, hasTerraform, valuesPresent, plannedPresent, configurationPresent, priorPresent, items,
    listed, reads⟩
  rw [check, Value.requireStr_of_field? "" hasFormat, Value.requireStr_of_field? "" hasTerraform, hasValues,
    hasPlanned, hasConfiguration, hasPrior, Value.requireArray_of_field? "" listed]
  apply Checked.ext
  · rfl
  · simp only [Checked.issues_bind, Checked.issues_pure, Option.getD_some, clean, List.append_nil]

theorem ofValue_eq_ok_iff (v : Value) (p : Plan) :
    ofValue v = .ok p ↔ v.isObject = true ∧ (check v).issues = [] ∧ (check v).value = p := by
  unfold ofValue
  by_cases object : v.isObject = true
  · rw [if_pos object, Checked.finish_eq_ok_iff]
    exact (and_iff_right object).symm
  · rw [if_neg object]
    exact iff_of_false (by rintro ⟨⟩) (fun all => object all.1)

/-- A document is read as a plan exactly when it has the form of one. The plan then
    holds what the document does, and a document that is refused has issues. -/
theorem ofValue_accepts_iff_conforms (v : Value) :
    ((∃ p, ofValue v = .ok p) ↔ Conforms v) ∧
    (∀ p, ofValue v = .ok p → Reads v p) ∧
    (∀ e, ofValue v = .error e → e.issues ≠ []) := by
  refine ⟨⟨?_, fun ok => ?_⟩, fun p accepted => ?_, fun e refused => ?_⟩
  · rintro ⟨p, accepted⟩
    obtain ⟨object, clean, _⟩ := (ofValue_eq_ok_iff v p).mp accepted
    exact conforms_of_check object clean
  · obtain ⟨p, read, _⟩ := check_of_conforms ok
    exact ⟨p, (ofValue_eq_ok_iff v p).mpr ⟨ok.object, by rw [read], by rw [read]⟩⟩
  · obtain ⟨object, clean, value⟩ := (ofValue_eq_ok_iff v p).mp accepted
    obtain ⟨q, read, reads⟩ := check_of_conforms (conforms_of_check object clean)
    rw [read] at value
    exact value ▸ reads
  · unfold ofValue at refused
    by_cases object : v.isObject = true
    · rw [if_pos object] at refused
      exact Checked.issues_ne_nil_of_finish refused
    · rw [if_neg object] at refused
      cases refused
      exact List.cons_ne_nil _ _

example : ∃ p, ofValue (.object
    [("format_version", .string "1.2"), ("terraform_version", .string "1.5.0"),
      ("resource_changes", .array [])]) = .ok p :=
  ⟨_, rfl⟩

end InfraAudit.Plan
