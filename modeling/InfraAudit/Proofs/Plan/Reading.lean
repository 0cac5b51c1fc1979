import InfraAudit.Plan.Resource
import InfraAudit.Proofs.Plan.Acceptance
import Mathlib.Data.List.Nodup

/-!
Plans as what their documents hold. A document is read as at most one plan
(`Reads.unique`), whose resource changes have addresses of their own
(`addresses_nodup`); and leaving the resource changes of other providers out of a
document leaves the same ones out of its plan (`ofValue_narrow`).
-/
namespace InfraAudit.Plan

/-! ### One plan for a document -/

theorem string_inj {field : Option Value} {s t : String} (first : field = some (.string s))
    (second : field = some (.string t)) : s = t :=
  Value.string.inj (Option.some.inj (first.symm.trans second))

theorem map_inj {α : Type} {make : α → Value} (injective : Function.Injective make) {field : Option Value}
    {a b : Option α} (first : field = a.map make) (second : field = b.map make) : a = b :=
  Option.map_injective injective (first.symm.trans second)

theorem string_injective : Function.Injective Value.string := fun _ _ => Value.string.inj

theorem object_injective : Function.Injective Value.object := fun _ _ => Value.object.inj

theorem Mode.name_injective : Function.Injective Mode.name := by
  intro m n same
  cases m <;> cases n <;> first | rfl | exact absurd same (by decide)

theorem Change.Reads.unique {v : Value} {c d : Change} (first : Change.Reads v c) (second : Change.Reads v d) :
    c = d := by
  have actions : c.actions = d.actions := by
    have same := first.actions.symm.trans second.actions
    exact List.map_injective_iff.mpr ChangeAction.encode_injective (Value.array.inj (Option.some.inj same))
  cases c
  cases d
  exact Change.mk.injEq .. ▸ ⟨actions, first.before.trans second.before.symm, first.after.trans second.after.symm,
    first.afterUnknown.trans second.afterUnknown.symm, first.beforeSensitive.trans second.beforeSensitive.symm,
    first.afterSensitive.trans second.afterSensitive.symm⟩

theorem ResourceChange.Reads.unique {v : Value} {c d : ResourceChange} (first : ResourceChange.Reads v c)
    (second : ResourceChange.Reads v d) : c = d := by
  obtain ⟨w, held, reads⟩ := first.change
  obtain ⟨w', held', reads'⟩ := second.change
  have change : c.change = d.change := by
    rw [held] at held'
    cases held'
    exact reads.unique reads'
  cases c
  cases d
  exact ResourceChange.mk.injEq .. ▸ ⟨string_inj first.address second.address,
    map_inj string_injective first.moduleAddress second.moduleAddress,
    Mode.name_injective (string_inj first.mode second.mode), string_inj first.resourceType second.resourceType,
    string_inj first.name second.name, string_inj first.providerName second.providerName, change⟩

theorem Reads.unique {v : Value} {p q : Plan} (first : Reads v p) (second : Reads v q) : p = q := by
  obtain ⟨items, listed, reads⟩ := first.resourceChanges
  obtain ⟨items', listed', reads'⟩ := second.resourceChanges
  have changes : p.resourceChanges = q.resourceChanges := by
    rw [listed] at listed'
    cases listed'
    have functional : Relator.RightUnique ResourceChange.Reads := fun _ _ _ one other => one.unique other
    exact List.right_unique_forall₂' functional reads reads'
  cases p
  cases q
  exact Plan.mk.injEq .. ▸ ⟨string_inj first.formatVersion second.formatVersion,
    string_inj first.terraformVersion second.terraformVersion,
    map_inj object_injective first.variableValues second.variableValues,
    map_inj object_injective first.plannedValues second.plannedValues, changes,
    map_inj object_injective first.configuration second.configuration,
    map_inj object_injective first.priorState second.priorState⟩

/-- A document is read as a plan when it has the form of one and the plan holds what
    it does. -/
theorem ofValue_eq_ok_iff_reads (v : Value) (p : Plan) : ofValue v = .ok p ↔ Conforms v ∧ Reads v p := by
  rw [ofValue_eq_ok_iff]
  constructor
  · rintro ⟨object, clean, rfl⟩
    have conforms := conforms_of_check object clean
    obtain ⟨q, read, reads⟩ := check_of_conforms conforms
    exact ⟨conforms, by rw [read]; exact reads⟩
  · rintro ⟨conforms, reads⟩
    obtain ⟨q, read, reads'⟩ := check_of_conforms conforms
    rw [read]
    exact ⟨conforms.object, rfl, reads'.unique reads⟩

/-! ### Addresses -/

theorem addresses_of_reads {items : List Value} {changes : List ResourceChange}
    (reads : List.Forall₂ ResourceChange.Reads items changes) :
    items.map (fun item => item.field? "address") = changes.map (fun c => some (Value.string c.address)) := by
  induction reads with
  | nil => rfl
  | cons first _ ih => rw [List.map_cons, List.map_cons, first.address, ih]

/-- The resource changes of a plan have addresses of their own. -/
theorem addresses_nodup {v : Value} {p : Plan} (read : ofValue v = .ok p) :
    (p.resourceChanges.map ResourceChange.address).Nodup := by
  obtain ⟨conforms, reads⟩ := (ofValue_eq_ok_iff_reads v p).mp read
  obtain ⟨items, listed, _, apart⟩ := conforms.resourceChanges
  obtain ⟨items', listed', changes⟩ := reads.resourceChanges
  rw [listed] at listed'
  cases listed'
  have distinct : (items.map (fun item => item.field? "address")).Nodup := List.pairwise_map.mpr apart
  rw [addresses_of_reads changes] at distinct
  apply List.Nodup.of_map (fun address => some (Value.string address))
  rw [List.map_map]
  exact distinct

/-! ### Narrowed documents -/

/-- Whether a resource change in a document names a provider of a short name. -/
def isOfProvider (short : String) (item : Value) : Bool :=
  (item.fieldStr? "provider_name").any (fun name => Resource.shortProvider name == short)

/-- The value of a field of a document that keeps the resource changes of a provider only. -/
def narrowField (short key : String) (w : Value) : Value :=
  match key, w with
  | "resource_changes", .array items => .array (items.filter (isOfProvider short))
  | _, w => w

/-- A document that keeps the resource changes of a provider only. -/
def narrowDocument (short : String) : Value → Value
  | .object fields => .object (fields.map fun (key, w) => (key, narrowField short key w))
  | v => v

/-- The plan that keeps the resource changes of a provider only. -/
def narrow (short : String) (p : Plan) : Plan :=
  { p with resourceChanges := p.resourceChanges.filter (fun c => Resource.shortProvider c.providerName == short) }

theorem lookup_map_fields (change : String → Value → Value) (fields : Fields) (key : String) :
    (fields.map fun (k, w) => (k, change k w)).lookup key = (fields.lookup key).map (change key) := by
  induction fields with
  | nil => rfl
  | cons f rest ih =>
    obtain ⟨k, w⟩ := f
    rw [List.map_cons, List.lookup_cons, List.lookup_cons, ih]
    by_cases same : key = k
    · rw [beq_iff_eq.mpr same, same]
      rfl
    · rw [beq_eq_false_iff_ne.mpr same]

theorem field?_narrowDocument (short key : String) (v : Value) :
    (narrowDocument short v).field? key = (v.field? key).map (narrowField short key) := by
  cases v with
  | object fields => exact lookup_map_fields (narrowField short) fields key
  | _ => rfl

theorem narrowField_other {short key : String} (other : key ≠ "resource_changes") (w : Value) :
    narrowField short key w = w := by
  unfold narrowField
  split
  · exact absurd rfl other
  · rfl

theorem field?_narrowDocument_other (short : String) {key : String} (other : key ≠ "resource_changes") (v : Value) :
    (narrowDocument short v).field? key = v.field? key := by
  rw [field?_narrowDocument]
  have same : narrowField short key = id := funext (narrowField_other other)
  rw [same, Option.map_id, id]

theorem field?_narrowDocument_changes (short : String) {v : Value} {items : List Value}
    (listed : v.field? "resource_changes" = some (.array items)) :
    (narrowDocument short v).field? "resource_changes" = some (.array (items.filter (isOfProvider short))) := by
  rw [field?_narrowDocument, listed]
  rfl

theorem isOfProvider_of_reads (short : String) {item : Value} {c : ResourceChange}
    (reads : ResourceChange.Reads item c) :
    isOfProvider short item = (Resource.shortProvider c.providerName == short) := by
  rw [isOfProvider, Value.fieldStr?, reads.providerName]
  rfl

theorem forall₂_narrow (short : String) {items : List Value} {changes : List ResourceChange}
    (reads : List.Forall₂ ResourceChange.Reads items changes) :
    List.Forall₂ ResourceChange.Reads (items.filter (isOfProvider short))
      (changes.filter (fun c => Resource.shortProvider c.providerName == short)) := by
  induction reads with
  | nil => exact .nil
  | @cons item c items changes first _ ih =>
    have same := isOfProvider_of_reads short first
    by_cases kept : Resource.shortProvider c.providerName == short
    · rw [List.filter_cons, List.filter_cons, if_pos (same.trans kept), if_pos kept]
      exact .cons first ih
    · rw [List.filter_cons, List.filter_cons, if_neg (same ▸ kept), if_neg kept]
      exact ih

theorem present?_narrowDocument_other (short : String) {key : String} (other : key ≠ "resource_changes") (v : Value) :
    (narrowDocument short v).present? key = v.present? key := by
  rw [Value.present?, field?_narrowDocument_other short other]
  rfl

theorem isObject_narrowDocument (short : String) (v : Value) : (narrowDocument short v).isObject = v.isObject := by
  cases v <;> rfl

theorem maybeObject_narrowDocument (short : String) {key : String} (other : key ≠ "resource_changes") {v : Value}
    (maybe : v.MaybeObject key) : (narrowDocument short v).MaybeObject key := by
  unfold Value.MaybeObject Value.Unset
  rw [field?_narrowDocument_other short other]
  exact maybe

theorem hasString_narrowDocument (short : String) {key : String} (other : key ≠ "resource_changes") {v : Value}
    (held : v.HasString key) : (narrowDocument short v).HasString key := by
  obtain ⟨s, held⟩ := held
  exact ⟨s, (field?_narrowDocument_other short other v).trans held⟩

theorem Conforms.narrow {v : Value} (ok : Conforms v) (short : String) : Conforms (narrowDocument short v) where
  object := (isObject_narrowDocument short v).trans ok.object
  formatVersion := hasString_narrowDocument short (by decide) ok.formatVersion
  terraformVersion := hasString_narrowDocument short (by decide) ok.terraformVersion
  variableValues := maybeObject_narrowDocument short (by decide) ok.variableValues
  variableEntries fields held :=
    ok.variableEntries fields ((field?_narrowDocument_other short (by decide) v).symm.trans held)
  plannedValues := maybeObject_narrowDocument short (by decide) ok.plannedValues
  configuration := maybeObject_narrowDocument short (by decide) ok.configuration
  priorState := maybeObject_narrowDocument short (by decide) ok.priorState
  priorVersions fields held :=
    ok.priorVersions fields ((field?_narrowDocument_other short (by decide) v).symm.trans held)
  resourceChanges := by
    obtain ⟨items, listed, all, apart⟩ := ok.resourceChanges
    refine ⟨_, field?_narrowDocument_changes short listed, fun item member => ?_, apart.filter _⟩
    exact all item (List.mem_of_mem_filter member)

theorem Reads.narrow {v : Value} {p : Plan} (reads : Reads v p) (short : String) :
    Reads (narrowDocument short v) (p.narrow short) where
  formatVersion := (field?_narrowDocument_other short (by decide) v).trans reads.formatVersion
  terraformVersion := (field?_narrowDocument_other short (by decide) v).trans reads.terraformVersion
  variableValues := (present?_narrowDocument_other short (by decide) v).trans reads.variableValues
  plannedValues := (present?_narrowDocument_other short (by decide) v).trans reads.plannedValues
  configuration := (present?_narrowDocument_other short (by decide) v).trans reads.configuration
  priorState := (present?_narrowDocument_other short (by decide) v).trans reads.priorState
  resourceChanges := by
    obtain ⟨items, listed, changes⟩ := reads.resourceChanges
    exact ⟨_, field?_narrowDocument_changes short listed, forall₂_narrow short changes⟩

/-- A narrowed document is read as the narrowed plan. -/
theorem ofValue_narrow {v : Value} {p : Plan} (read : ofValue v = .ok p) (short : String) :
    ofValue (narrowDocument short v) = .ok (p.narrow short) := by
  obtain ⟨conforms, reads⟩ := (ofValue_eq_ok_iff_reads v p).mp read
  exact (ofValue_eq_ok_iff_reads _ _).mpr ⟨conforms.narrow short, reads.narrow short⟩

end InfraAudit.Plan
