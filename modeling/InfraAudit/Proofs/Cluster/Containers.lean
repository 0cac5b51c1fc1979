import InfraAudit.Proofs.Record.Decoding
import InfraAudit.Rule.Workload
import Mathlib.Data.List.Forall2

/-!
What the containers of a workload are read from. Every entry of the list must stand for
a record with a name (`HoldsContainer`), and of a record only parts of the right form are
read (`Container.Reads`). A list stands for a record as well as an object does: it is read
item by item, as a container, as what a container asks for, or as its security settings.
-/
namespace InfraAudit

namespace Cluster

open Record

/-! ### Records within containers -/

/-- The requirements that a value stands for. -/
def Requirements.read? (v : Value) : Option Requirements :=
  if v.standsFor 1 then some ⟨(v.part? 0 "limits").filter (fun l => !l.isNull)⟩ else none

/-- The security settings of a container that a value stands for. -/
def SecurityContext.read? (v : Value) : Option SecurityContext :=
  if v.standsFor 2 then
    some ⟨(v.part? 0 "allowPrivilegeEscalation").bind Value.bool?, (v.part? 1 "runAsNonRoot").bind Value.bool?⟩
  else none

/-- The security settings of a pod that a value stands for. -/
def PodSecurityContext.read? (v : Value) : Option PodSecurityContext :=
  if v.standsFor 1 then some ⟨(v.part? 0 "runAsNonRoot").bind Value.bool?⟩ else none

/-- The requirements that an object sets. -/
def Requirements.ofObject? (v : Value) : Option Requirements :=
  if v.isObject then some ⟨v.present? "limits"⟩ else none

/-- The security settings that an object makes for a container. -/
def SecurityContext.ofObject? (v : Value) : Option SecurityContext :=
  if v.isObject then
    some ⟨(v.field? "allowPrivilegeEscalation").bind Value.bool?, (v.field? "runAsNonRoot").bind Value.bool?⟩
  else none

/-- The security settings that an object makes for a pod. -/
def PodSecurityContext.ofObject? (v : Value) : Option PodSecurityContext :=
  if v.isObject then some ⟨(v.field? "runAsNonRoot").bind Value.bool?⟩ else none

/-- A list that is read as a record of some fields. -/
def ListAsRecord (fields : Nat) (v : Value) : Prop := ∃ items, v = .array items ∧ items.length ≤ fields

section
variable (v : Value)

/-- What is read from objects and short lists is what is read from objects only, unless
    there is a short list. -/
theorem read_eq_iff_not_listAsRecord {α : Type} {fields : Nat} {f g : Value → α}
    (agree : ∀ w, w.isObject = true → f w = g w) :
    (if v.standsFor fields then some (f v) else none) = (if v.isObject then some (g v) else none) ↔
      ¬ ListAsRecord fields v := by
  cases form : v.isObject with
  | true =>
    refine iff_of_true ?_ ?_
    · rw [if_pos (Value.standsFor_of_object form fields), if_pos rfl, agree v form]
    · rintro ⟨items, rfl, _⟩
      cases form
  | false =>
    cases v with
    | object entries => cases form
    | _ => simp [Value.standsFor, ListAsRecord]

theorem Requirements.read?_eq_iff : read? v = ofObject? v ↔ ¬ ListAsRecord 1 v := by
  apply read_eq_iff_not_listAsRecord
  intro w object
  rw [Value.part?_of_object object]
  rfl

theorem SecurityContext.read?_eq_iff : read? v = ofObject? v ↔ ¬ ListAsRecord 2 v := by
  apply read_eq_iff_not_listAsRecord
  intro w object
  rw [Value.part?_of_object object, Value.part?_of_object object]

theorem PodSecurityContext.read?_eq_iff : read? v = ofObject? v ↔ ¬ ListAsRecord 1 v := by
  apply read_eq_iff_not_listAsRecord
  intro w object
  rw [Value.part?_of_object object]

theorem Requirements.toOption_decode : (decode v).toOption = read? v := by
  apply toOption_record
  intro w s source a
  simp only [Part.map_eq_ok_iff, field_optional_any_eq_ok_iff source, exists_eq_left]

theorem SecurityContext.toOption_decode : (decode v).toOption = read? v := by
  apply toOption_record
  intro w s source a
  simp only [Part.seq_eq_ok_iff, Part.map_eq_ok_iff, field_boolean_eq_ok_iff source, exists_eq_left,
    exists_eq_left', exists_and_left]

theorem PodSecurityContext.toOption_decode : (decode v).toOption = read? v := by
  apply toOption_record
  intro w s source a
  simp only [Part.map_eq_ok_iff, field_boolean_eq_ok_iff source, exists_eq_left]

end

section
variable {v : Value} {s : Source} {shape : Shape} {index : Nat} {name : String}

theorem Requirements.field_eq_ok_iff (source : source? v = some s) (a : Option Requirements) :
    s.field shape index name (lenient decode) (.default none) = .ok a ↔ a = (v.part? index name).bind read? := by
  rw [field_lenient_eq_ok_iff source rfl, funext toOption_decode]

theorem SecurityContext.field_eq_ok_iff (source : source? v = some s) (a : Option SecurityContext) :
    s.field shape index name (lenient decode) (.default none) = .ok a ↔ a = (v.part? index name).bind read? := by
  rw [field_lenient_eq_ok_iff source rfl, funext toOption_decode]

end

/-! ### Containers -/

namespace Container

/-- A container has what stands in a value: the parts of the right form; all others are
    not set. -/
structure Reads (c : Container) (v : Value) : Prop where
  stands : v.standsFor 4 = true
  name : v.part? 0 "name" = some (.string c.name)
  image : c.image = (v.part? 1 "image").bind Value.str?
  resources : c.resources = (v.part? 2 "resources").bind Requirements.read?
  securityContext : c.securityContext = (v.part? 3 "securityContext").bind SecurityContext.read?

theorem decode_eq_ok_iff (v : Value) (c : Container) : decode v = .ok c ↔ c.Reads v := by
  rw [decode, record_eq_ok_iff]
  constructor
  · rintro ⟨stands, s, source, read⟩
    simp only [Part.seq_eq_ok_iff, Part.map_eq_ok_iff, field_required_eq_ok_iff source, string_eq_ok_iff,
      field_string_eq_ok_iff source, Requirements.field_eq_ok_iff source, SecurityContext.field_eq_ok_iff source] at read
    obtain ⟨_, _, ⟨_, _, ⟨_, _, ⟨name, ⟨_, held, rfl⟩, rfl⟩, rfl, rfl⟩, rfl, rfl⟩, rfl, rfl⟩ := read
    exact ⟨stands, held, rfl, rfl, rfl⟩
  · rintro ⟨stands, name, image, resources, securityContext⟩
    obtain ⟨s, source⟩ := exists_source? stands
    refine ⟨stands, s, source, ?_⟩
    simp only [Part.seq_eq_ok_iff, Part.map_eq_ok_iff, field_required_eq_ok_iff source, string_eq_ok_iff,
      field_string_eq_ok_iff source, Requirements.field_eq_ok_iff source, SecurityContext.field_eq_ok_iff source]
    exact ⟨_, _, ⟨_, _, ⟨_, _, ⟨c.name, ⟨_, name, rfl⟩, rfl⟩, image, rfl⟩, resources, rfl⟩, securityContext, rfl⟩

/-- A container has what an object says of it: the fields of the right form; all others
    are not set. -/
structure ReadsObject (c : Container) (v : Value) : Prop where
  object : v.isObject = true
  name : v.fieldStr? "name" = some c.name
  image : c.image = v.fieldStr? "image"
  resources : c.resources = (v.field? "resources").bind Requirements.ofObject?
  securityContext : c.securityContext = (v.field? "securityContext").bind SecurityContext.ofObject?

/-- Somewhere in what describes a container a list is read as a record. -/
def ReadsList (v : Value) : Prop :=
  (∃ items, v = .array items) ∨ (∃ w, v.field? "resources" = some w ∧ ListAsRecord 1 w) ∨
    (∃ w, v.field? "securityContext" = some w ∧ ListAsRecord 2 w)

/-- What is read of a container is what an object says of it, unless a list is read in
    the place of a record. -/
theorem readsObject_iff {c : Container} {v : Value} (reads : c.Reads v) : c.ReadsObject v ↔ ¬ ReadsList v := by
  obtain ⟨stands, name, image, resources, securityContext⟩ := reads
  constructor
  · rintro ⟨object, _, _, required, secured⟩ (⟨items, rfl⟩ | ⟨w, held, list⟩ | ⟨w, held, list⟩)
    · cases object
    · rw [resources, Value.part?_of_object object, held] at required
      exact (Requirements.read?_eq_iff w).mp required list
    · rw [securityContext, Value.part?_of_object object, held] at secured
      exact (SecurityContext.read?_eq_iff w).mp secured list
  · intro unlisted
    have object : v.isObject = true := Value.isObject_of_standsFor stands (fun items eq => unlisted (.inl ⟨items, eq⟩))
    simp only [Value.part?_of_object object] at name image resources securityContext
    refine ⟨object, ?_, image, ?_, ?_⟩
    · rw [Value.fieldStr?, name]
      rfl
    · rw [resources]
      apply Option.bind_congr
      intro w held
      exact (Requirements.read?_eq_iff w).mpr (fun list => unlisted (.inr (.inl ⟨w, held, list⟩)))
    · rw [securityContext]
      apply Option.bind_congr
      intro w held
      exact (SecurityContext.read?_eq_iff w).mpr (fun list => unlisted (.inr (.inr ⟨w, held, list⟩)))

end Container

/-- A value from which a container can be read: it stands for a record and names it. -/
def HoldsContainer (v : Value) : Prop := v.standsFor 4 = true ∧ ∃ name, v.part? 0 "name" = some (.string name)

theorem exists_reads_iff (v : Value) : (∃ c, Container.Reads c v) ↔ HoldsContainer v := by
  constructor
  · rintro ⟨c, reads⟩
    exact ⟨reads.stands, c.name, reads.name⟩
  · rintro ⟨stands, name, held⟩
    exact ⟨⟨name, _, _, _⟩, stands, held, rfl, rfl, rfl⟩

theorem not_holdsContainer_of_error {v : Value} {e : DecodeError} (refused : Container.decode v = .error e) :
    ¬ HoldsContainer v := by
  intro holds
  obtain ⟨c, reads⟩ := (exists_reads_iff v).mpr holds
  rw [(Container.decode_eq_ok_iff v c).mpr reads] at refused
  cases refused

/-! ### Lists of containers -/

namespace PodSpec

theorem decodeContainers_eq_ok_iff (path : String) (i : Nat) (items : List Value) (cs : List Container) :
    decodeContainers path i items = .ok cs ↔ List.Forall₂ (fun v c => Container.Reads c v) items cs := by
  induction items generalizing i cs with
  | nil => cases cs <;> simp [decodeContainers]
  | cons v rest ih =>
    rw [decodeContainers]
    cases read : Container.decode v with
    | error e =>
      refine iff_of_false (by simp) ?_
      intro all
      obtain ⟨c, _, first, _, rfl⟩ := List.forall₂_cons_left_iff.mp all
      rw [(Container.decode_eq_ok_iff v c).mpr first] at read
      cases read
    | ok c =>
      have first := (Container.decode_eq_ok_iff v c).mp read
      constructor
      · intro made
        obtain ⟨later, decoded, rfl⟩ : ∃ later, decodeContainers path (i + 1) rest = .ok later ∧ c :: later = cs := by
          cases decoded : decodeContainers path (i + 1) rest with
          | error e =>
            rw [decoded] at made
            cases made
          | ok later =>
            rw [decoded] at made
            exact ⟨later, rfl, Except.ok.inj made⟩
        exact .cons first ((ih (i + 1) later).mp decoded)
      · intro all
        obtain ⟨d, later, firstOf, others, rfl⟩ := List.forall₂_cons_left_iff.mp all
        have same := read.symm.trans ((Container.decode_eq_ok_iff v d).mpr firstOf)
        cases same
        rw [(ih (i + 1) later).mpr others]
        rfl

/-- The first entry from which no container can be read is named by its index. -/
theorem decodeContainers_error {path : String} {i : Nat} {items : List Value} {e : RuleError}
    (refused : decodeContainers path i items = .error e) :
    ∃ before v after reason, items = before ++ v :: after ∧ (∀ w ∈ before, HoldsContainer w) ∧ ¬ HoldsContainer v ∧
      e = .malformed (FieldPath.item path (i + before.length)) reason := by
  induction items generalizing i with
  | nil => cases refused
  | cons v rest ih =>
    rw [decodeContainers] at refused
    cases read : Container.decode v with
    | error err =>
      -- This is the first one, with none before it.
      rw [read] at refused
      cases refused
      exact ⟨[], v, rest, _, rfl, by simp, not_holdsContainer_of_error read, rfl⟩
    | ok c =>
      rw [read] at refused
      have later : decodeContainers path (i + 1) rest = .error e := by
        cases decoded : decodeContainers path (i + 1) rest with
        | ok cs =>
          rw [decoded] at refused
          cases refused
        | error e' =>
          rw [decoded] at refused
          exact congrArg Except.error (Except.error.inj refused)
      obtain ⟨before, w, after, reason, rfl, held, refusal, rfl⟩ := ih later
      refine ⟨v :: before, w, after, reason, rfl, ?_, refusal, ?_⟩
      · intro u member
        rcases List.mem_cons.mp member with rfl | member
        · exact (exists_reads_iff u).mp ⟨c, (Container.decode_eq_ok_iff u c).mp read⟩
        · exact held u member
      · rw [List.length_cons, Nat.add_assoc, Nat.add_comm 1]

theorem exists_reads_of_mem {items : List Value} {cs : List Container}
    (all : List.Forall₂ (fun v c => Container.Reads c v) items cs) {v : Value} (member : v ∈ items) :
    ∃ c ∈ cs, Container.Reads c v := by
  induction all with
  | nil => cases member
  | @cons w c _ later first _ ih =>
    rcases List.mem_cons.mp member with rfl | member
    · exact ⟨c, List.mem_cons_self, first⟩
    · obtain ⟨d, among, reads⟩ := ih member
      exact ⟨d, List.mem_cons_of_mem c among, reads⟩

/-! ### Pods -/

/-- The description of the pods in a document. -/
def Of (document : Value) (pod : PodSpec) : Prop :=
  ∃ spec, specOf document = .ok (some spec) ∧ PodSpec.find? (kindOf document) (some spec) = some pod

variable {document : Value} {pod : PodSpec}

theorem Of.containers_eq (found : Of document pod) : Cluster.containers document = pod.containers := by
  obtain ⟨spec, specified, described⟩ := found
  rw [Cluster.containers, specified]
  change containersOf (kindOf document) (some spec) = _
  rw [containersOf, described]

theorem Of.podSecurityContext_eq (found : Of document pod) :
    Cluster.podSecurityContext document = pod.securityContext := by
  obtain ⟨spec, specified, described⟩ := found
  rw [Cluster.podSecurityContext, specified]
  change podSecurityContextOf (kindOf document) (some spec) = _
  rw [podSecurityContextOf, described]

theorem containers_of_list {items : List Value} (listed : pod.fields.lookup "containers" = some (.array items)) :
    pod.containers = decodeContainers (FieldPath.field pod.path "containers") 0 items := by
  rw [containers, listed]

/-- The settings of a pod are not set, or read from a value that stands for them. -/
theorem securityContext_eq_ok_iff (settings : Option PodSecurityContext) :
    pod.securityContext = .ok settings ↔
      ((Value.object pod.fields).Unset "securityContext" ∧ settings = none) ∨
        ∃ w c, pod.fields.lookup "securityContext" = some w ∧ PodSecurityContext.read? w = some c ∧
          settings = some c := by
  simp only [securityContext, Value.Unset, Value.field?, ← PodSecurityContext.toOption_decode]
  cases pod.fields.lookup "securityContext" with
  | none => simp [eq_comm]
  | some w =>
    -- Null counts as not set, and no settings are read from it.
    have refused : (PodSecurityContext.decode .null).toOption = none := rfl
    cases w with
    | null => simp [refused, eq_comm]
    | _ =>
      dsimp only
      split <;> rename_i decoded <;> simp [decoded, Except.toOption, eq_comm]

end PodSpec

end Cluster

end InfraAudit
