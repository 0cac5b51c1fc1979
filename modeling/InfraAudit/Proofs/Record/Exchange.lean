import InfraAudit.Audit.Plan
import InfraAudit.Proofs.Cluster.Containers
import InfraAudit.Proofs.Plan.Normalization
import InfraAudit.Proofs.Record.Encoding

/-!
The records that are exchanged: each is read back from the value that it is written as
(`decode_write` of each of them), field by field. What is not set is left out and read back
as not set; and where a record holds a value as it came, as the states of a resource or the
limits of a container, it is read back if it is not null and is written as it is
(`Settled`), as is all that was read from plans (`settled_of_ofValue`) and from containers
(`settled_of_reads`) to begin with.
-/
namespace InfraAudit

open Record

/-- Every resource change that was read was read from an item of the list. -/
theorem Plan.exists_item_of_mem {items : List Value} {changes : List ResourceChange}
    (reads : List.Forall₂ ResourceChange.Reads items changes) {c : ResourceChange} (member : c ∈ changes) :
    ∃ item ∈ items, ResourceChange.Reads item c := by
  induction reads with
  | nil => cases member
  | @cons item d _ _ first _ ih =>
    rcases List.mem_cons.mp member with rfl | later
    · exact ⟨item, List.mem_cons_self, first⟩
    · obtain ⟨other, among, readsOther⟩ := ih later
      exact ⟨other, List.mem_cons_of_mem item among, readsOther⟩

section
variable {write : Value → Value} (rearranges : Rearranges write)

include rearranges

-- The fields of a record stand in the order of its declaration; that each is found under its
-- name is what remains to be shown.

/-! ### Rules and what they report -/

theorem ResourceRef.decode_write (ref : ResourceRef) : decode (write ref.encode) = .ok ref := by
  refine rearranges.record fun held =>
    ((held.field (rearranges.string ref.resourceType) ?_).map _)
      |>.seq (held.field (rearranges.string ref.name) ?_)
      |>.seq (held.optional rfl (fun path _ => rearranges.string path) ?_)
  all_goals simp [List.lookup_cons, lookup_fieldIfSome]

theorem Finding.decode_write (f : Finding) : decode (write f.encode) = .ok f := by
  refine rearranges.record fun held =>
    ((held.field (rearranges.string f.ruleId) ?_).map _)
      |>.seq (held.field (rearranges.name f.severity.decode_encode rfl) ?_)
      |>.seq (held.field (rearranges.string f.title) ?_)
      |>.seq (held.field (rearranges.string f.description) ?_)
      |>.seq (held.optional rfl (fun ref _ => ref.decode_write rearranges) ?_)
      |>.seq (held.optional rfl (fun evidence _ => rearranges.string evidence) ?_)
      |>.seq (held.field (rearranges.string f.recommendation) ?_)
      |>.seq (held.listed (rearranges.list fun reference _ => rearranges.string reference) ?_)
  all_goals simp [List.lookup_append, List.lookup_cons, lookup_fieldIfSome, lookup_fieldUnlessEmpty]

theorem RuleInfo.decode_write (i : RuleInfo) : decode (write i.encode) = .ok i := by
  refine rearranges.record fun held =>
    ((held.field (rearranges.string i.id) ?_).map _)
      |>.seq (held.field (rearranges.string i.title) ?_)
      |>.seq (held.field (rearranges.string i.description) ?_)
      |>.seq (held.field (rearranges.name i.severity.decode_encode rfl) ?_)
      |>.seq (held.field (rearranges.name i.category.decode_encode rfl) ?_)
      |>.seq (held.optional rfl (fun provider _ => rearranges.string provider) ?_)
      |>.seq (held.field (rearranges.list fun resourceType _ => rearranges.string resourceType) ?_)
      |>.seq (held.listed (rearranges.list fun reference _ => rearranges.string reference) ?_)
  all_goals simp [List.lookup_append, List.lookup_cons, lookup_fieldIfSome, lookup_fieldUnlessEmpty]

theorem RuleFailure.decode_write (f : RuleFailure) : decode (write f.encode) = .ok f := by
  refine rearranges.record fun held =>
    ((held.field (rearranges.string f.ruleId) ?_).map _)
      |>.seq (held.field (rearranges.string f.resourceType) ?_)
      |>.seq (held.field (rearranges.string f.resourceName) ?_)
      |>.seq (held.field (rearranges.string f.message) ?_)
  all_goals simp [List.lookup_cons]

theorem Evaluation.decode_write (e : Evaluation) : decode (write e.encode) = .ok e := by
  refine rearranges.record fun held =>
    ((held.field (rearranges.list fun f _ => f.decode_write rearranges) ?_).map _)
      |>.seq (held.listed (rearranges.list fun f _ => f.decode_write rearranges) ?_)
  all_goals simp [List.lookup_cons, lookup_fieldUnlessEmpty]

/-! ### Documents and risks -/

theorem Manifest.Diagnostic.decode_write (d : Diagnostic) : decode (write d.encode) = .ok d := by
  refine rearranges.record fun held =>
    ((held.optional rfl (fun file _ => rearranges.string file) ?_).map _)
      |>.seq (held.field (rearranges.natural d.documentIndex) ?_)
      |>.seq (held.optional rfl (fun line _ => rearranges.natural line) ?_)
      |>.seq (held.field (rearranges.string d.message) ?_)
  all_goals simp [List.lookup_append, List.lookup_cons, lookup_fieldIfSome]

theorem Risk.Analysis.decode_write (a : Analysis) : decode (write a.encode) = .ok a := by
  refine rearranges.record fun held =>
    ((held.field (rearranges.string a.address) ?_).map _)
      |>.seq (held.field (rearranges.string a.resourceType) ?_)
      |>.seq (held.field (rearranges.list fun concern _ => rearranges.string concern) ?_)
      |>.seq (held.field (rearranges.list fun recommendation _ => rearranges.string recommendation) ?_)
      |>.seq (held.field (rearranges.name a.level.decode_encode rfl) ?_)
  all_goals simp [List.lookup_cons]

/-! ### Plans -/

theorem Plan.Summary.decode_write (s : Summary) : decode (write s.encode) = .ok s := by
  refine rearranges.record fun held =>
    ((held.field (rearranges.natural s.adds) ?_).map _)
      |>.seq (held.field (rearranges.natural s.changes) ?_)
      |>.seq (held.field (rearranges.natural s.destroys) ?_)
      |>.seq (held.field (rearranges.natural s.totalResources) ?_)
  all_goals simp [List.lookup_cons]

theorem PlanEntry.decode_write (e : PlanEntry) : decode (write e.encode) = .ok e := by
  refine rearranges.record fun held =>
    ((held.field (rearranges.string e.resourceType) ?_).map _)
      |>.seq (held.field (rearranges.string e.name) ?_)
      |>.seq (held.field (rearranges.name e.action.decode_encode rfl) ?_)
      |>.seq (held.field (rearranges.string e.path) ?_)
      |>.seq (held.field (rearranges.string e.address) ?_)
  all_goals simp [List.lookup_cons]

theorem Plan.DriftDetail.decode_write (d : DriftDetail) :
    decode (write d.encode) = .ok { d with before := write d.before, after := write d.after } := by
  refine rearranges.record fun held =>
    ((held.field (rearranges.string d.address) ?_).map _)
      |>.seq (held.field (rearranges.string d.field) ?_)
      |>.seq (held.field (v := d.before) rfl ?_)
      |>.seq (held.field (v := d.after) rfl ?_)
  all_goals simp [List.lookup_cons]

theorem Plan.Drift.decode_write {d : Drift} (kept : ∀ e ∈ d.details, write e.before = e.before ∧ write e.after = e.after) :
    decode (write d.encode) = .ok d := by
  have details : ∀ e ∈ d.details, DriftDetail.decode (write e.encode) = .ok e := by
    intro e member
    obtain ⟨before, after⟩ := kept e member
    rw [e.decode_write rearranges, before, after]
  refine rearranges.record fun held =>
    ((held.field (rearranges.natural d.changedResources) ?_).map _)
      |>.seq (held.field (rearranges.list details) ?_)
  all_goals simp [List.lookup_cons]

theorem Plan.Resource.decode_write {r : Resource} (before : Settled write r.before) (after : Settled write r.after) :
    decode (write r.encode) = .ok r := by
  refine rearranges.record fun held =>
    ((held.field (rearranges.string r.address) ?_).map _)
      |>.seq (held.field (rearranges.string r.resourceType) ?_)
      |>.seq (held.field (rearranges.string r.name) ?_)
      |>.seq (held.field (rearranges.string r.provider) ?_)
      |>.seq (held.field (rearranges.name r.action.decode_encode rfl) ?_)
      |>.seq (held.field (rearranges.state before) ?_)
      |>.seq (held.field (rearranges.state after) ?_)
  all_goals simp [List.lookup_cons]

/-- The states of the resources of a plan that was read are not null, and are written as they
    are if the document is. -/
theorem Plan.settled_of_ofValue {v : Value} {p : Plan} (read : ofValue v = .ok p) (kept : write v = v)
    {r : Resource} (member : r ∈ p.resources) : Settled write r.before ∧ Settled write r.after := by
  obtain ⟨_, reads⟩ := (ofValue_eq_ok_iff_reads v p).mp read
  obtain ⟨items, listed, changes⟩ := reads.resourceChanges
  obtain ⟨c, among, rfl⟩ := List.mem_map.mp member
  obtain ⟨item, inItems, readsItem⟩ := exists_item_of_mem changes among
  obtain ⟨w, changed, readsChange⟩ := readsItem.change
  have keptItems := write_of_map (rearranges.map_field? kept "resource_changes") listed
  have keptItem := rearranges.write_item keptItems rfl item inItems
  have keptChange := write_of_map (rearranges.map_field? keptItem "change") changed
  constructor
  · rw [Resource.ofChange, readsChange.before]
    exact rearranges.settled_present? keptChange "before"
  · rw [Resource.ofChange, readsChange.after]
    exact rearranges.settled_present? keptChange "after"

/-! ### Containers -/

namespace Cluster

theorem Requirements.decode_write {q : Requirements} (limits : Settled write q.limits) :
    decode (write q.encode) = .ok q := by
  refine rearranges.record fun held => (held.settled limits ?_).map _
  simp [lookup_fieldIfSome]

theorem SecurityContext.decode_write (s : SecurityContext) : decode (write s.encode) = .ok s := by
  refine rearranges.record fun held =>
    ((held.lenient rfl (fun allowed _ => rearranges.boolean allowed) ?_).map _)
      |>.seq (held.lenient rfl (fun nonRoot _ => rearranges.boolean nonRoot) ?_)
  all_goals simp [List.lookup_append, lookup_fieldIfSome]

theorem Container.decode_write {c : Container} (limits : ∀ q ∈ c.resources, Settled write q.limits) :
    decode (write c.encode) = .ok c := by
  refine rearranges.record fun held =>
    ((held.field (rearranges.string c.name) ?_).map _)
      |>.seq (held.lenient rfl (fun image _ => rearranges.string image) ?_)
      |>.seq (held.lenient rfl (fun q member => Requirements.decode_write rearranges (limits q member)) ?_)
      |>.seq (held.lenient rfl (fun s _ => s.decode_write rearranges) ?_)
  all_goals simp [List.lookup_append, List.lookup_cons, lookup_fieldIfSome]

/-- The limits that were read of a container are not null, and are written as they are if
    what the container was read from is. -/
theorem Container.settled_of_reads {c : Container} {v : Value} (reads : c.Reads v) (kept : write v = v) :
    ∀ q ∈ c.resources, Settled write q.limits := by
  intro q member
  rw [reads.resources] at member
  obtain ⟨w, held, readFrom⟩ := Option.bind_eq_some_iff.mp member
  have keptPart := write_of_map (rearranges.map_part? kept 2 "resources") held
  have limits : q.limits = (w.part? 0 "limits").filter (fun l => !l.isNull) := by
    obtain ⟨_, made⟩ := Option.ite_none_right_eq_some.mp readFrom
    cases made
    rfl
  rw [limits]
  exact settled_filter (rearranges.map_part? keptPart 0 "limits")

end Cluster

end

/-! ### States that are null -/

namespace Plan.Resource

/-- The resource without its states that are null. -/
def unsetNulls (r : Resource) : Resource :=
  { r with before := r.before.filter (fun v => !v.isNull), after := r.after.filter (fun v => !v.isNull) }

theorem encode_unsetNulls (r : Resource) : r.unsetNulls.encode = r.encode := by
  have same : ∀ o : Option Value, encodeOption id (o.filter (fun v => !v.isNull)) = encodeOption id o := by
    intro o
    cases o with
    | none => rfl
    | some v => cases v <;> rfl
  simp only [encode, unsetNulls, same]

/-- A null state is written as one that is not set, so just the resources without one are read
    back. -/
theorem decode_encode_iff (r : Resource) : decode r.encode = .ok r ↔ r.before ≠ some .null ∧ r.after ≠ some .null := by
  have unset : decode r.encode = .ok r.unsetNulls := by
    rw [← encode_unsetNulls]
    exact decode_write rearranges_id (settled_filter Option.map_id_apply) (settled_filter Option.map_id_apply)
  have kept : ∀ o : Option Value, o ≠ some .null ↔ o.filter (fun v => !v.isNull) = o := by
    intro o
    cases o with
    | none => simp
    | some v => cases v <;> simp [Value.isNull]
  rw [unset, kept, kept, Except.ok.injEq]
  cases r
  simp [unsetNulls]

end Plan.Resource

/-! ### All records -/

/-- A record is read back from the value that it is written as, and from that with its keys in
    order. -/
def ReadsBack {α : Type} (decode : Decoder α) (encode : α → Value) (a : α) : Prop :=
  decode (encode a) = .ok a ∧ decode (encode a).sortKeys = .ok a

theorem readsBack_of {α : Type} {decode : Decoder α} {encode : α → Value} {a : α}
    (read : ∀ {write}, Rearranges write → decode (write (encode a)) = .ok a) : ReadsBack decode encode a :=
  ⟨read rearranges_id, read rearranges_sortKeys⟩

/-- Every record that is exchanged is read back. So are the values that drifts, resources and
    containers hold as they came; where the keys of the record are put in order, those of its
    values must be in order already, as they are if those of the document are that the record
    was read from. -/
theorem exchanged_records_read_back :
    (∀ f, ReadsBack Finding.decode Finding.encode f) ∧
    (∀ i, ReadsBack RuleInfo.decode RuleInfo.encode i) ∧
    (∀ f, ReadsBack RuleFailure.decode RuleFailure.encode f) ∧
    (∀ e, ReadsBack Evaluation.decode Evaluation.encode e) ∧
    (∀ d, ReadsBack Manifest.Diagnostic.decode Manifest.Diagnostic.encode d) ∧
    (∀ a, ReadsBack Risk.Analysis.decode Risk.Analysis.encode a) ∧
    (∀ s, ReadsBack Plan.Summary.decode Plan.Summary.encode s) ∧
    (∀ e, ReadsBack PlanEntry.decode PlanEntry.encode e) ∧
    (∀ d, Plan.Drift.decode d.encode = .ok d ∧
      ((∀ e ∈ d.details, e.before.sortKeys = e.before ∧ e.after.sortKeys = e.after) →
        Plan.Drift.decode d.encode.sortKeys = .ok d)) ∧
    (∀ v p, Plan.ofValue v = .ok p → ∀ r ∈ p.resources,
      Plan.Resource.decode r.encode = .ok r ∧
      (v.sortKeys = v → Plan.Resource.decode r.encode.sortKeys = .ok r)) ∧
    (∀ v c, Cluster.Container.decode v = .ok c →
      Cluster.Container.decode c.encode = .ok c ∧
      (v.sortKeys = v → Cluster.Container.decode c.encode.sortKeys = .ok c)) := by
  refine ⟨fun f => readsBack_of f.decode_write, fun i => readsBack_of i.decode_write,
    fun f => readsBack_of f.decode_write, fun e => readsBack_of e.decode_write, fun d => readsBack_of d.decode_write,
    fun a => readsBack_of a.decode_write, fun s => readsBack_of s.decode_write, fun e => readsBack_of e.decode_write,
    fun d => ?drift, fun v p read r member => ?resource, fun v c read => ?container⟩
  case drift =>
    exact ⟨Plan.Drift.decode_write rearranges_id fun _ _ => ⟨rfl, rfl⟩, Plan.Drift.decode_write rearranges_sortKeys⟩
  case resource =>
    have back : ∀ {write}, Rearranges write → write v = v → Plan.Resource.decode (write r.encode) = .ok r := by
      intro write rearranges kept
      obtain ⟨before, after⟩ := Plan.settled_of_ofValue rearranges read kept member
      exact Plan.Resource.decode_write rearranges before after
    exact ⟨back rearranges_id rfl, back rearranges_sortKeys⟩
  case container =>
    have reads := (Cluster.Container.decode_eq_ok_iff v c).mp read
    have back : ∀ {write}, Rearranges write → write v = v → Cluster.Container.decode (write c.encode) = .ok c := by
      intro write rearranges kept
      exact Cluster.Container.decode_write rearranges (Cluster.Container.settled_of_reads rearranges reads kept)
    exact ⟨back rearranges_id rfl, back rearranges_sortKeys⟩

/-- What was null in a document is not set in the record that was read from it, and is so in
    the record that is read back. -/
theorem exchanged_records_read_back_null :
    (∃ p r, Plan.ofValue Plan.replacedVolume = .ok p ∧ p.resources = [r] ∧ r.before = none ∧
      ReadsBack Plan.Resource.decode Plan.Resource.encode r) ∧
    (∃ c, Cluster.Container.decode
        (.object [("name", .string "app"), ("resources", .object [("limits", .null)])]) = .ok c ∧
      c.resources = some ⟨none⟩ ∧ ReadsBack Cluster.Container.decode Cluster.Container.encode c) ∧
    ReadsBack Plan.Drift.decode Plan.Drift.encode
      ⟨1, [⟨"aws_ebs_volume.data", "tags", .null, .object [("a", .bool true), ("b", .array [])]⟩]⟩ := by
  obtain ⟨_, _, _, _, _, _, _, _, drifts, resources, containers⟩ := exchanged_records_read_back
  refine ⟨?_, ?_, ?_⟩
  · obtain ⟨plain, sorted⟩ := resources Plan.replacedVolume _ rfl _ List.mem_cons_self
    exact ⟨_, _, rfl, rfl, rfl, plain, sorted (by rfl)⟩
  · obtain ⟨plain, sorted⟩ := containers
      (.object [("name", .string "app"), ("resources", .object [("limits", .null)])]) _ rfl
    exact ⟨_, rfl, rfl, plain, sorted (by rfl)⟩
  · obtain ⟨plain, sorted⟩ := drifts
      ⟨1, [⟨"aws_ebs_volume.data", "tags", .null, .object [("a", .bool true), ("b", .array [])]⟩]⟩
    exact ⟨plain, sorted (List.forall_mem_singleton.mpr ⟨rfl, rfl⟩)⟩

end InfraAudit
