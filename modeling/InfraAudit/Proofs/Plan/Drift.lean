import InfraAudit.Plan.Drift
import InfraAudit.Proofs.Plan.Reading
import InfraAudit.Proofs.Value.Equality
import InfraAudit.Proofs.Value.Order
import Mathlib.Data.List.Dedup
import Mathlib.Data.List.Sort

/-!
What the drift of a plan tells. The keys of two states are merged in order
(`pairwise_mergedKeys`), so that a resource has one detail for each attribute in which its
states differ (`mem_drift_iff`), in the order of their keys. A detail says what its
attribute becomes: put into the state before, the details make the state after
(`lookup_patch`). Addresses tell the resources of a plan apart, and with them their details.
-/
namespace InfraAudit.Plan

/-! ### Keys -/

section
variable {key k : String} {keys names : List String}

theorem mem_insertKey : k ∈ insertKey key keys ↔ k = key ∨ k ∈ keys := by
  induction keys with
  | nil => simp [insertKey]
  | cons first rest ih =>
    rw [insertKey]
    split
    · exact List.mem_cons
    · split
      · rename_i same
        subst same
        simp
      · simp only [List.mem_cons, ih]
        tauto

theorem insertKey_eq : insertKey key keys = (Value.insertField key .null (keys.map (·, .null))).map Prod.fst := by
  induction keys with
  | nil => rfl
  | cons first rest ih =>
    rw [List.map_cons, insertKey, Value.insertField]
    split
    · simp [Function.comp_def]
    · split
      · rename_i same
        simp [Function.comp_def, same]
      · rw [List.map_cons, ih]

theorem pairwise_insertKey (ordered : keys.Pairwise (· < ·)) : (insertKey key keys).Pairwise (· < ·) := by
  rw [insertKey_eq, List.pairwise_map]
  exact Value.inOrder_insertField (List.pairwise_map.mpr ordered)

theorem mem_foldl_insertKey :
    k ∈ names.foldl (fun keys name => insertKey name keys) keys ↔ k ∈ names ∨ k ∈ keys := by
  induction names generalizing keys with
  | nil => simp
  | cons name rest ih =>
    rw [List.foldl_cons, ih, mem_insertKey, List.mem_cons]
    tauto

theorem pairwise_foldl_insertKey (ordered : keys.Pairwise (· < ·)) :
    (names.foldl (fun keys name => insertKey name keys) keys).Pairwise (· < ·) := by
  induction names generalizing keys with
  | nil => exact ordered
  | cons name rest ih => exact ih (pairwise_insertKey ordered)

variable {a b : Fields}

theorem mem_mergedKeys : k ∈ mergedKeys a b ↔ k ∈ a.map Prod.fst ∨ k ∈ b.map Prod.fst := by
  rw [mergedKeys, mem_foldl_insertKey, List.map_append, List.mem_append]
  simp

theorem pairwise_mergedKeys : (mergedKeys a b).Pairwise (· < ·) := pairwise_foldl_insertKey List.Pairwise.nil

theorem mergedKeys_comm (a b : Fields) : mergedKeys a b = mergedKeys b a := by
  apply List.Pairwise.eq_of_mem_iff pairwise_mergedKeys pairwise_mergedKeys
  intro k
  rw [mem_mergedKeys, mem_mergedKeys, or_comm]

theorem fieldOrNull_of_not_mem (missing : k ∉ a.map Prod.fst) : fieldOrNull a k = .null := by
  have none : a.lookup k = none := by
    rw [List.lookup_eq_none_iff]
    intro f member
    exact bne_iff_ne.mpr (fun same => missing (same ▸ List.mem_map_of_mem member))
  rw [fieldOrNull, none, Option.getD_none]

/-- Only a key of one of two states can make a difference between them. -/
theorem mem_mergedKeys_of_differs (differs : (fieldOrNull a k == fieldOrNull b k) = false) : k ∈ mergedKeys a b := by
  rw [mem_mergedKeys]
  by_contra missing
  obtain ⟨notBefore, notAfter⟩ := not_or.mp missing
  rw [fieldOrNull_of_not_mem notBefore, fieldOrNull_of_not_mem notAfter] at differs
  cases differs

end

/-! ### Details -/

/-- What a state has under a key: null if it has nothing there, or is no object. -/
def attributeOf (state : Option Value) (key : String) : Value := (state.bind (·.field? key)).getD .null

theorem fieldOrNull_stateFields (state : Option Value) (key : String) :
    fieldOrNull (stateFields state) key = attributeOf state key := by
  cases state with
  | none => rfl
  | some v => cases v <;> rfl

/-- A detail tells an attribute in which the states of a resource differ. -/
structure DriftDetail.Tells (d : DriftDetail) (r : Resource) : Prop where
  address : d.address = r.address
  before : d.before = attributeOf r.before d.field
  after : d.after = attributeOf r.after d.field
  differs : (d.before == d.after) = false

section
variable (r : Resource)

theorem DriftDetail.of?_eq_some_iff {d : DriftDetail} {key : String} :
    of? r.address (stateFields r.before) (stateFields r.after) key = some d ↔ d.field = key ∧ d.Tells r := by
  simp only [of?, fieldOrNull_stateFields]
  constructor
  · intro told
    split at told
    · cases told
    · rename_i differs
      cases told
      exact ⟨rfl, rfl, rfl, rfl, Bool.eq_false_iff.mpr differs⟩
  · rintro ⟨rfl, tells⟩
    rw [← tells.before, ← tells.after, ← tells.address, if_neg (Bool.eq_false_iff.mp tells.differs)]

theorem mem_drift_iff (d : DriftDetail) : d ∈ r.drift ↔ d.Tells r := by
  rw [Resource.drift, List.mem_filterMap]
  constructor
  · rintro ⟨key, _, told⟩
    exact ((DriftDetail.of?_eq_some_iff r).mp told).2
  · intro tells
    refine ⟨d.field, mem_mergedKeys_of_differs ?_, (DriftDetail.of?_eq_some_iff r).mpr ⟨rfl, tells⟩⟩
    rw [fieldOrNull_stateFields, fieldOrNull_stateFields, ← tells.before, ← tells.after]
    exact tells.differs

theorem pairwise_drift : r.drift.Pairwise (fun d e => d.field < e.field) := by
  rw [Resource.drift, List.pairwise_filterMap]
  apply pairwise_mergedKeys.imp
  intro k l before d told e told'
  rw [((DriftDetail.of?_eq_some_iff r).mp told).1, ((DriftDetail.of?_eq_some_iff r).mp told').1]
  exact before

end

/-! ### Patches -/

/-- The fields of a state in which each attribute that details tell is what it becomes. -/
def patch (details : List DriftDetail) (fields : Fields) : Fields :=
  details.foldl (fun fields d => Value.insertField d.field d.after fields) fields

/-- The same stands under each key, or values that are equal; null stands where nothing does. -/
def Agree (a b : Fields) : Prop :=
  ∀ key, fieldOrNull a key = fieldOrNull b key ∨ (fieldOrNull a key == fieldOrNull b key) = true

theorem lookup_patch {details : List DriftDetail} (value : String → Value)
    (becomes : ∀ d ∈ details, d.after = value d.field) (fields : Fields) (key : String) :
    (patch details fields).lookup key =
      if key ∈ details.map DriftDetail.field then some (value key) else fields.lookup key := by
  induction details generalizing fields with
  | nil => rfl
  | cons d rest ih =>
    obtain ⟨first, later⟩ := List.forall_mem_cons.mp becomes
    have next : patch (d :: rest) fields = patch rest (Value.insertField d.field d.after fields) := rfl
    rw [next, ih later, Value.lookup_insertField, List.map_cons]
    by_cases told : key ∈ rest.map DriftDetail.field
    · rw [if_pos told, if_pos (List.mem_cons_of_mem _ told)]
    · rw [if_neg told]
      by_cases same : key = d.field
      · rw [if_pos same, if_pos (List.mem_cons.mpr (.inl same)), first, same]
      · rw [if_neg same, if_neg]
        exact fun member => (List.mem_cons.mp member).elim same told

/-- The details of a resource make the state after it from the state before it. -/
theorem agree_patch {details : List DriftDetail} {r : Resource} (told : ∀ d, d ∈ details ↔ d.Tells r) :
    Agree (patch details (stateFields r.before)) (stateFields r.after) := by
  intro key
  have found := lookup_patch (attributeOf r.after) (fun d member => ((told d).mp member).after)
    (stateFields r.before) key
  rw [fieldOrNull_stateFields, fieldOrNull, found]
  split
  · exact .inl rfl
  · rename_i untold
    -- An attribute without a detail is the same before and after.
    right
    change (fieldOrNull (stateFields r.before) key == attributeOf r.after key) = true
    rw [fieldOrNull_stateFields]
    by_contra differs
    have tells : DriftDetail.Tells ⟨r.address, key, attributeOf r.before key, attributeOf r.after key⟩ r :=
      ⟨rfl, rfl, rfl, Bool.eq_false_iff.mpr differs⟩
    exact untold (List.mem_map_of_mem ((told _).mpr tells))

/-! ### Exchanged states -/

/-- A detail told from the other side. -/
def DriftDetail.exchange (d : DriftDetail) : DriftDetail := { d with before := d.after, after := d.before }

/-- A resource whose state before is that after, and the other way round. -/
def Resource.exchange (r : Resource) : Resource := { r with before := r.after, after := r.before }

/-- A resource change whose state before is that after, and the other way round. -/
def ResourceChange.exchange (c : ResourceChange) : ResourceChange :=
  { c with change := { c.change with before := c.change.after, after := c.change.before } }

/-- A plan in which the states of each update are exchanged. -/
def exchangeUpdates (p : Plan) : Plan :=
  { p with
    resourceChanges := p.resourceChanges.map fun c =>
      if Action.classify c.change.actions = .update then c.exchange else c }

theorem DriftDetail.of?_exchange (address : String) (before after : Fields) (key : String) :
    of? address after before key = (of? address before after key).map exchange := by
  have side : (fieldOrNull after key == fieldOrNull before key) = (fieldOrNull before key == fieldOrNull after key) :=
    Value.beq_comm _ _
  simp only [of?, side]
  split <;> rfl

theorem Resource.drift_exchange (r : Resource) : r.exchange.drift = r.drift.map DriftDetail.exchange := by
  rw [drift, drift, List.map_filterMap, exchange, mergedKeys_comm]
  apply List.filterMap_congr
  intro key _
  exact DriftDetail.of?_exchange r.address (stateFields r.before) (stateFields r.after) key

theorem resources_exchangeUpdates (p : Plan) :
    p.exchangeUpdates.resources = p.resources.map fun r => if r.action = .update then r.exchange else r := by
  rw [resources, resources, exchangeUpdates, List.map_map, List.map_map]
  apply List.map_congr_left
  intro c _
  have action : (Resource.ofChange c).action = Action.classify c.change.actions := rfl
  simp only [Function.comp_apply, action]
  split <;> rfl

theorem byAction_exchangeUpdates (p : Plan) :
    p.exchangeUpdates.byAction .update = (p.byAction .update).map Resource.exchange := by
  have action : ((·.action == .update) ∘ fun r : Resource => if r.action = .update then r.exchange else r) =
      (·.action == .update) := by
    funext r
    simp only [Function.comp_apply]
    split <;> rfl
  rw [byAction, resources_exchangeUpdates, List.filter_map, action, byAction]
  apply List.map_congr_left
  intro r member
  exact if_pos (beq_iff_eq.mp (List.mem_filter.mp member).2)

theorem drift_exchangeUpdates (p : Plan) :
    p.exchangeUpdates.drift = ⟨p.drift.changedResources, p.drift.details.map DriftDetail.exchange⟩ := by
  have drifts : (p.exchangeUpdates.byAction .update).map Resource.drift =
      ((p.byAction .update).map Resource.drift).map (List.map DriftDetail.exchange) := by
    rw [byAction_exchangeUpdates, List.map_map, List.map_map]
    apply List.map_congr_left
    intro r _
    exact r.drift_exchange
  unfold drift
  simp only [drifts, List.map_flatten, List.countP_map]
  congr 1
  apply List.countP_congr
  intro ds _
  simp

/-! ### Plans -/

/-- The place of an address among the resources of a plan. -/
def place (p : Plan) (address : String) : Nat := (p.resources.map Resource.address).idxOf address

/-- A detail comes before another one by the place of its resource, and within a resource by its key. -/
def DriftDetail.Precedes (p : Plan) (d e : DriftDetail) : Prop :=
  p.place d.address < p.place e.address ∨ d.address = e.address ∧ d.field < e.field

section
variable {p : Plan}

theorem details_drift (p : Plan) : p.drift.details = (p.byAction .update).flatMap Resource.drift :=
  List.flatMap_def.symm

theorem mem_details_iff (d : DriftDetail) :
    d ∈ p.drift.details ↔ ∃ r ∈ p.resources, r.action = .update ∧ d.Tells r := by
  simp only [details_drift, List.mem_flatMap, mem_drift_iff, byAction, List.mem_filter, beq_iff_eq, and_assoc]

theorem pairwise_place (apart : (p.resources.map Resource.address).Nodup) :
    p.resources.Pairwise (fun r s => p.place r.address < p.place s.address) := by
  rw [← List.pairwise_map (f := Resource.address) (R := fun a b => p.place a < p.place b), List.pairwise_iff_getElem]
  intro i j first second before
  rw [place, place, apart.idxOf_getElem, apart.idxOf_getElem]
  exact before

theorem pairwise_details (apart : (p.resources.map Resource.address).Nodup) :
    p.drift.details.Pairwise (DriftDetail.Precedes p) := by
  rw [details_drift, List.pairwise_flatMap]
  constructor
  · intro r _
    apply (pairwise_drift r).imp_of_mem
    intro d e told told' before
    have address := ((mem_drift_iff r d).mp told).address
    exact .inr ⟨address.trans ((mem_drift_iff r e).mp told').address.symm, before⟩
  · apply ((pairwise_place apart).filter _).imp
    intro r s before d told e told'
    rw [DriftDetail.Precedes, ((mem_drift_iff r d).mp told).address, ((mem_drift_iff s e).mp told').address]
    exact .inl before

/-- The details at the address of an update are those of that resource. -/
theorem mem_details_at_iff (apart : (p.resources.map Resource.address).Nodup) {r : Resource} (member : r ∈ p.resources)
    (updates : r.action = .update) (d : DriftDetail) :
    d ∈ p.drift.details.filter (·.address == r.address) ↔ d.Tells r := by
  rw [List.mem_filter, mem_details_iff, beq_iff_eq]
  constructor
  · rintro ⟨⟨s, among, _, tells⟩, address⟩
    have same : s = r := List.inj_on_of_nodup_map apart among member (tells.address.symm.trans address)
    exact same ▸ tells
  · intro tells
    exact ⟨⟨r, member, updates, tells⟩, tells.address⟩

theorem changedResources_eq (apart : (p.resources.map Resource.address).Nodup) :
    p.drift.changedResources = (p.drift.details.map DriftDetail.address).dedup.length := by
  have counts : p.drift.changedResources =
      (((p.byAction .update).filter (fun r => !r.drift.isEmpty)).map Resource.address).length := by
    rw [List.length_map, ← List.countP_eq_length_filter]
    exact List.countP_map
  have distinct : (((p.byAction .update).filter (fun r => !r.drift.isEmpty)).map Resource.address).Nodup :=
    apart.sublist ((List.filter_sublist.trans List.filter_sublist).map Resource.address)
  rw [counts]
  apply List.Perm.length_eq
  rw [List.perm_ext_iff_of_nodup distinct (List.nodup_dedup _)]
  intro address
  rw [List.mem_dedup, details_drift]
  simp only [List.mem_map, List.mem_filter, List.mem_flatMap, Bool.not_eq_true', List.isEmpty_eq_false_iff_exists_mem]
  constructor
  · rintro ⟨r, ⟨among, d, told⟩, rfl⟩
    exact ⟨d, ⟨r, among, told⟩, ((mem_drift_iff r d).mp told).address⟩
  · rintro ⟨d, ⟨r, among, told⟩, rfl⟩
    exact ⟨r, ⟨among, d, told⟩, ((mem_drift_iff r d).mp told).address.symm⟩

end

/-- The drift of a plan. Its details are the attributes in which updates differ, in the
    order of the resources and then of the keys; they make the states after the updates from
    those before, and are told the other way round when these are exchanged; and the drift
    counts the resources that they are about. -/
theorem drift_tells_differences {v : Value} {p : Plan} (read : ofValue v = .ok p) :
    (∀ d, d ∈ p.drift.details ↔ ∃ r ∈ p.resources, r.action = .update ∧ d.Tells r) ∧
    p.drift.details.Pairwise (DriftDetail.Precedes p) ∧
    (∀ r ∈ p.resources, r.action = .update →
      Agree (patch (p.drift.details.filter (·.address == r.address)) (stateFields r.before)) (stateFields r.after)) ∧
    p.exchangeUpdates.drift = ⟨p.drift.changedResources, p.drift.details.map DriftDetail.exchange⟩ ∧
    p.drift.changedResources = (p.drift.details.map DriftDetail.address).dedup.length := by
  have apart : (p.resources.map Resource.address).Nodup := by
    rw [resources, List.map_map]
    exact addresses_nodup read
  refine ⟨mem_details_iff, pairwise_details apart, ?_, p.drift_exchangeUpdates, changedResources_eq apart⟩
  intro r member updates
  exact agree_patch (mem_details_at_iff apart member updates)

/-- The states of an instance that gets a zone, and whose tags were null before they are left out. -/
def zonedChange : Change :=
  ⟨[.update], some (.object [("ami", .string "a"), ("tags", .null), ("type", .string "micro")]),
    some (.object [("ami", .string "b"), ("type", .string "micro"), ("zone", .string "c")]), none, none, none⟩

/-- A plan with that change only. -/
def zonedPlan : Plan :=
  ⟨"1.2", "1.6.0", none, none, [⟨"aws_instance.web", none, .managed, "aws_instance", "web", "aws", zonedChange⟩],
    none, none⟩

/-- The fields that only one state has are told against null, unless the other one is null as well. -/
theorem drift_tells_differences_zoned :
    ofValue zonedPlan.encode = .ok zonedPlan ∧
      ⟨"aws_instance.web", "zone", .null, .string "c"⟩ ∈ zonedPlan.drift.details ∧
      zonedPlan.exchangeUpdates.drift.details.map DriftDetail.field = ["ami", "zone"] := by
  have read : ofValue zonedPlan.encode = .ok zonedPlan := rfl
  obtain ⟨told, _, _, exchanged, _⟩ := drift_tells_differences read
  have tells : DriftDetail.Tells ⟨"aws_instance.web", "zone", .null, .string "c"⟩
      (Resource.ofChange ⟨"aws_instance.web", none, .managed, "aws_instance", "web", "aws", zonedChange⟩) :=
    ⟨rfl, rfl, rfl, rfl⟩
  refine ⟨read, (told _).mpr ⟨_, List.mem_singleton_self _, rfl, tells⟩, ?_⟩
  rw [exchanged]
  decide +kernel

end InfraAudit.Plan
