import InfraAudit.Proofs.Cluster.Containers
import InfraAudit.Proofs.Rule.Builtin
import InfraAudit.Rule.Workload

/-!
What the rules about workloads take as configuration. A rule passes when every container
that is read does what it asks for (`noLimits_passes_iff`, `runAsRoot_passes_iff`), and a
container is read from the fields of an object, unless a list stands in its place or in
that of one of its records.
-/
namespace InfraAudit

open Cluster

namespace Cluster

/-! ### What objects set -/

/-- A container is described with limits. -/
def SetsLimits (v : Value) : Prop := ∃ w l, v.field? "resources" = some w ∧ w.present? "limits" = some l

/-- A container, or a pod, is described as one that must not run as root. -/
def ForbidsRoot (settings : Option Value) : Prop :=
  ∃ w, settings = some w ∧ w.field? "runAsNonRoot" = some (.bool true)

namespace Container

variable {c : Container} {v : Value}

theorem ReadsObject.hasLimits_iff (reads : c.ReadsObject v) : c.hasLimits = true ↔ SetsLimits v := by
  rw [hasLimits, reads.resources, SetsLimits]
  cases held : v.field? "resources" with
  | none => simp
  | some w =>
    cases w with
    | object fields => simp [Requirements.ofObject?, Value.isObject, Option.isSome_iff_exists]
    | _ => simp [Requirements.ofObject?, Value.isObject, Value.present?, Value.field?]

theorem ReadsObject.runAsNonRoot_iff (reads : c.ReadsObject v) :
    c.securityContext.bind (·.runAsNonRoot) = some true ↔ ForbidsRoot (v.field? "securityContext") := by
  rw [reads.securityContext, ForbidsRoot]
  cases held : v.field? "securityContext" with
  | none => simp
  | some w =>
    cases w with
    | object fields =>
      cases set : (Value.object fields).field? "runAsNonRoot" with
      | none => simp [SecurityContext.ofObject?, Value.isObject, set]
      | some b => cases b <;> simp [SecurityContext.ofObject?, Value.isObject, set, Value.bool?]
    | _ => simp [SecurityContext.ofObject?, Value.isObject, Value.field?]

end Container

theorem runAsNonRoot_of_ofObject? {w : Value} {c : PodSecurityContext}
    (made : PodSecurityContext.ofObject? w = some c) (set : c.runAsNonRoot = some true) :
    w.field? "runAsNonRoot" = some (.bool true) := by
  cases w with
  | object fields =>
    cases made
    obtain ⟨b, held, true⟩ := Option.bind_eq_some_iff.mp set
    cases b with
    | bool b =>
      cases true
      exact held
    | _ => cases true
  | _ => cases made

end Cluster

namespace Rule.Workload

/-! ### Passing rules -/

theorem report_eq_none_iff {info : RuleInfo} {t : Target} {description recommendation evidence : String}
    {offends : Container → Bool} {cs : List Container} :
    report info t description recommendation evidence offends cs = none ↔ ∀ c ∈ cs, offends c = false := by
  have names : ((cs.filter offends).map (·.name)).isEmpty = true ↔ ∀ c ∈ cs, offends c = false := by
    simp [List.isEmpty_iff]
  rw [report, ← names]
  split <;> simp [*]

/-- The rule about limits passes when each container is limited. -/
theorem noLimits_passes_iff (t : Target) :
    noLimits.evaluate t = .ok none ↔
      ∃ cs, containers t.resource = .ok cs ∧ ∀ c ∈ cs, c.hasLimits = true := by
  simp only [noLimits, bind_eq_ok_iff, pure, Except.pure, Except.ok.injEq, report_eq_none_iff, Bool.not_eq_false']

/-- The rule about root users passes when each container must not run as root. -/
theorem runAsRoot_passes_iff (t : Target) :
    runAsRoot.evaluate t = .ok none ↔
      ∃ cs, containers t.resource = .ok cs ∧
        ∃ pod, podSecurityContext t.resource = .ok pod ∧ ∀ c ∈ cs, c.effectiveRunAsNonRoot pod = some true := by
  simp only [runAsRoot, bind_eq_ok_iff, pure, Except.pure, Except.ok.injEq, report_eq_none_iff, bne_eq_false_iff_eq]

variable {document : Value} {pod : PodSpec} {items : List Value} {t : Target}

/-- Where the rule about limits passes, each entry sets limits, if no list is read as a
    record there. -/
theorem setsLimits_of_passes (found : PodSpec.Of t.resource pod)
    (listed : pod.fields.lookup "containers" = some (.array items)) (passes : noLimits.evaluate t = .ok none)
    {v : Value} (member : v ∈ items) : Container.ReadsList v ∨ SetsLimits v := by
  obtain ⟨cs, read, limited⟩ := (noLimits_passes_iff t).mp passes
  rw [found.containers_eq, PodSpec.containers_of_list listed, PodSpec.decodeContainers_eq_ok_iff] at read
  obtain ⟨c, among, reads⟩ := PodSpec.exists_reads_of_mem read member
  by_cases list : Container.ReadsList v
  · exact .inl list
  · have object := (Container.readsObject_iff reads).mpr list
    exact .inr (object.hasLimits_iff.mp (limited c among))

/-- Where the rule about root users passes, each entry or its pod forbids them, if no list
    is read as a record there. -/
theorem forbidsRoot_of_passes (found : PodSpec.Of t.resource pod)
    (listed : pod.fields.lookup "containers" = some (.array items)) (passes : runAsRoot.evaluate t = .ok none)
    {v : Value} (member : v ∈ items) :
    (Container.ReadsList v ∨ ForbidsRoot (v.field? "securityContext")) ∨
      (∃ w, pod.fields.lookup "securityContext" = some w ∧ ListAsRecord 1 w) ∨
        ForbidsRoot (pod.fields.lookup "securityContext") := by
  obtain ⟨cs, read, settings, set, forbidden⟩ := (runAsRoot_passes_iff t).mp passes
  rw [found.containers_eq, PodSpec.containers_of_list listed, PodSpec.decodeContainers_eq_ok_iff] at read
  rw [found.podSecurityContext_eq, PodSpec.securityContext_eq_ok_iff] at set
  obtain ⟨c, among, reads⟩ := PodSpec.exists_reads_of_mem read member
  have root : c.effectiveRunAsNonRoot settings = some true := forbidden c among
  rw [Container.effectiveRunAsNonRoot, Option.or_eq_some_iff] at root
  -- The pod's settings only count where the container's own ones are not set.
  rcases root with own | ⟨_, shared⟩
  · by_cases list : Container.ReadsList v
    · exact .inl (.inl list)
    · have object := (Container.readsObject_iff reads).mpr list
      exact .inl (.inr (object.runAsNonRoot_iff.mp own))
  · rcases set with ⟨_, rfl⟩ | ⟨w, made, held, stands, rfl⟩
    · cases shared
    · by_cases list : ListAsRecord 1 w
      · exact .inr (.inl ⟨w, held, list⟩)
      · rw [(PodSecurityContext.read?_eq_iff w).mpr list] at stands
        exact .inr (.inr ⟨w, held, runAsNonRoot_of_ofObject? stands shared⟩)

end Rule.Workload

/-! ### Workloads -/

/-- What is read of a workload's pods. The containers are read entry by entry, and the
    first entry that holds none is named; the pod's settings are read from a value that
    stands for them. Whatever is read is what objects say, and rules pass only where
    objects set what they ask for, unless a list is read in the place of a record. -/
theorem workload_read_from_objects {document : Value} {pod : PodSpec} (found : PodSpec.Of document pod) :
    (∀ items, pod.fields.lookup "containers" = some (.array items) →
      (∀ cs, containers document = .ok cs ↔ List.Forall₂ (fun v c => Container.Reads c v) items cs) ∧
      (∀ e, containers document = .error e →
        ∃ before v after reason, items = before ++ v :: after ∧ (∀ w ∈ before, HoldsContainer w) ∧
          ¬ HoldsContainer v ∧
          e = .malformed (FieldPath.item (FieldPath.field pod.path "containers") before.length) reason) ∧
      (∀ t : Target, t.resource = document → Rule.Workload.noLimits.evaluate t = .ok none →
        ∀ v ∈ items, Container.ReadsList v ∨ SetsLimits v) ∧
      (∀ t : Target, t.resource = document → Rule.Workload.runAsRoot.evaluate t = .ok none →
        ∀ v ∈ items, (Container.ReadsList v ∨ ForbidsRoot (v.field? "securityContext")) ∨
          (∃ w, pod.fields.lookup "securityContext" = some w ∧ ListAsRecord 1 w) ∨
            ForbidsRoot (pod.fields.lookup "securityContext"))) ∧
    (∀ settings, podSecurityContext document = .ok settings ↔
      ((Value.object pod.fields).Unset "securityContext" ∧ settings = none) ∨
        ∃ w c, pod.fields.lookup "securityContext" = some w ∧ PodSecurityContext.read? w = some c ∧
          settings = some c) ∧
    (∀ c v, Container.Reads c v → (Container.ReadsObject c v ↔ ¬ Container.ReadsList v)) ∧
    (∀ w, PodSecurityContext.read? w = PodSecurityContext.ofObject? w ↔ ¬ ListAsRecord 1 w) := by
  refine ⟨?_, ?_, ?_, PodSecurityContext.read?_eq_iff⟩
  · intro items listed
    rw [found.containers_eq, PodSpec.containers_of_list listed]
    refine ⟨PodSpec.decodeContainers_eq_ok_iff _ 0 items, ?_, ?_, ?_⟩
    · intro e refused
      obtain ⟨before, v, after, reason, split, held, refusal, rfl⟩ := PodSpec.decodeContainers_error refused
      exact ⟨before, v, after, reason, split, held, refusal, by rw [Nat.zero_add]⟩
    · rintro t rfl passes v member
      exact Rule.Workload.setsLimits_of_passes found listed passes member
    · rintro t rfl passes v member
      exact Rule.Workload.forbidsRoot_of_passes found listed passes member
  · intro settings
    rw [found.podSecurityContext_eq, PodSpec.securityContext_eq_ok_iff]
  · intro c v reads
    exact Container.readsObject_iff reads

/-- A container that lists what it asks for where an object should stand. -/
def listedEntry : Value :=
  .object
    [("image", .string "nginx:1.25"), ("name", .string "app"), ("resources", .array [.object [("cpu", .string "1")]])]

/-- A pod with that container only. -/
def listedPod : Value :=
  .object [("kind", .string "Pod"), ("spec", .object [("containers", .array [listedEntry])])]

theorem workload_read_from_objects_listed :
    PodSpec.Of listedPod ⟨[("containers", .array [listedEntry])], "spec"⟩ ∧
      (Container.ReadsList listedEntry ∨ SetsLimits listedEntry) := by
  have found : PodSpec.Of listedPod ⟨[("containers", .array [listedEntry])], "spec"⟩ := ⟨_, rfl, rfl⟩
  have passes : Rule.Workload.noLimits.evaluate ⟨listedPod, "Pod", "app", none⟩ = .ok none := rfl
  have reads := (workload_read_from_objects found).1 [listedEntry] rfl
  exact ⟨found, reads.2.2.1 ⟨listedPod, "Pod", "app", none⟩ rfl passes listedEntry List.mem_cons_self⟩

/-- A list of resources is read as an object with limits, and the rule about limits is
    content with it. -/
theorem limits_read_from_list :
    listedEntry.field? "resources" = some (.array [.object [("cpu", .string "1")]]) ∧ ¬ SetsLimits listedEntry ∧
      (∃ c, containers listedPod = .ok [c] ∧ c.hasLimits = true) ∧
      Rule.Workload.noLimits.evaluate ⟨listedPod, "Pod", "app", none⟩ = .ok none := by
  refine ⟨rfl, ?_, ⟨_, rfl, rfl⟩, rfl⟩
  rintro ⟨w, l, held, set⟩
  cases held
  cases set

end InfraAudit
