import InfraAudit.Proofs.Rule.Offenders
import InfraAudit.Proofs.Value.Order

/-!
Which documents are resources, and which resources they are. A document is read as a
resource exactly when the resource holds what the document does and its kind is not blank
(`Resource.ofValue_eq_ok_iff`). So the document of a resource and the value it is written
out as, which leaves out what is unset, are interchangeable: both hold the same, and the
pods of a resource are described by `kind` and `spec` alone.
-/
namespace InfraAudit

open Cluster.Resource (encodeTexts)

/-! ### Maps of texts -/

namespace Value

theorem stringEntry_eq_clean_iff {path : String} {entry : String × Value} {text : Option (String × String)} :
    stringEntry path entry = ⟨text, []⟩ ↔ ∃ k s, entry = (k, .string s) ∧ text = some (k, s) := by
  obtain ⟨k, w⟩ := entry
  cases w with
  | string s => simp [stringEntry, Checked.pure_eq_clean_iff, eq_comm]
  | _ => simp [stringEntry, Checked.issue]

theorem stringEntries_eq_clean_iff {path : String} {start : Nat} {fields : Fields}
    {texts : List (Option (String × String))} :
    Checked.forItems (fun _ => stringEntry path) start fields = ⟨texts, []⟩ ↔
      ∃ entries : List (String × String),
        fields = entries.map (fun (k, s) => (k, .string s)) ∧ texts = entries.map some := by
  induction fields generalizing start texts with
  | nil =>
    rw [Checked.forItems, Checked.pure_eq_clean_iff]
    constructor
    · rintro rfl
      exact ⟨[], rfl, rfl⟩
    · rintro ⟨entries, same, rfl⟩
      rw [List.map_eq_nil_iff.mp same.symm, List.map_nil]
  | cons f rest ih =>
    simp only [Checked.forItems, Checked.bind_eq_clean_iff, Checked.pure_eq_clean_iff, stringEntry_eq_clean_iff, ih]
    constructor
    · rintro ⟨_, ⟨k, s, rfl, rfl⟩, _, ⟨entries, rfl, rfl⟩, rfl⟩
      exact ⟨(k, s) :: entries, rfl, rfl⟩
    · rintro ⟨entries, same, rfl⟩
      cases entries with
      | nil => cases same
      | cons e entries =>
        obtain ⟨rfl, rfl⟩ := List.cons.inj same
        exact ⟨_, ⟨e.1, e.2, rfl, rfl⟩, _, ⟨entries, rfl, rfl⟩, rfl⟩

theorem optionalStrings_eq_clean_iff {v : Value} {key parent : String} {texts : Option (List (String × String))} :
    v.optionalStrings key parent = ⟨texts, []⟩ ↔ v.present? key = texts.map encodeTexts := by
  simp only [optionalStrings, Checked.bind_eq_clean_iff, Checked.pure_eq_clean_iff, optionalObject_eq_clean_iff,
    stringEntries_eq_clean_iff]
  constructor
  · rintro ⟨fields, present, _, ⟨entries, same, rfl⟩, rfl⟩
    cases fields with
    | none => exact present
    | some fields =>
      obtain rfl := same
      simpa [encodeTexts] using present
  · intro present
    cases texts with
    | none => exact ⟨none, present, [], ⟨[], rfl, rfl⟩, rfl⟩
    | some entries => exact ⟨some _, present, _, ⟨entries, rfl, rfl⟩, by simp⟩

end Value

namespace Cluster

/-! ### What a resource holds -/

/-- Metadata holds what a value does; a part that is null reads as unset. -/
structure Metadata.Reads (v : Value) (m : Metadata) : Prop where
  name : v.field? "name" = some (.string m.name)
  namespaceName : v.present? "namespace" = m.namespaceName.map Value.string
  labels : v.present? "labels" = m.labels.map Resource.encodeTexts
  annotations : v.present? "annotations" = m.annotations.map Resource.encodeTexts

/-- A resource holds what a document does, and keeps the document itself. -/
structure Resource.Reads (v : Value) (r : Resource) : Prop where
  apiVersion : v.field? "apiVersion" = some (.string r.apiVersion)
  kind : v.field? "kind" = some (.string r.kind)
  metadata : ∃ w, v.field? "metadata" = some w ∧ Metadata.Reads w r.metadata
  spec : v.present? "spec" = r.spec.map Value.object
  status : v.present? "status" = r.status.map Value.object
  raw : r.raw = v

theorem Metadata.check_eq_clean_iff {v : Value} {m : Option Metadata} :
    Metadata.check v = ⟨m, []⟩ ↔ ∃ w d, v.field? "metadata" = some w ∧ Metadata.Reads w d ∧ m = some d := by
  rw [Metadata.check, Checked.ifRead, Checked.bind_eq_clean_iff]
  constructor
  · rintro ⟨_, object, read⟩
    obtain ⟨w, held, _, rfl⟩ := Value.requireObject_eq_clean_iff.mp object
    simp only [Checked.bind_eq_clean_iff, Checked.pure_eq_clean_iff, Value.requireStr_eq_clean_iff,
      Value.optionalStr_eq_clean_iff, Value.optionalStrings_eq_clean_iff] at read
    obtain ⟨_, ⟨name, named, rfl⟩, ns, inside, labels, labelled, annotations, annotated, rfl⟩ := read
    exact ⟨w, _, held, ⟨named, inside, labelled, annotated⟩, rfl⟩
  · rintro ⟨w, d, held, reads, rfl⟩
    have object : w.isObject = true := Value.isObject_of_field? reads.name
    refine ⟨some w, Value.requireObject_eq_clean_iff.mpr ⟨w, held, object, rfl⟩, ?_⟩
    simp only [Checked.bind_eq_clean_iff, Checked.pure_eq_clean_iff, Value.requireStr_eq_clean_iff,
      Value.optionalStr_eq_clean_iff, Value.optionalStrings_eq_clean_iff]
    exact ⟨_, ⟨d.name, reads.name, rfl⟩, _, reads.namespaceName, _, reads.labels, _, reads.annotations, rfl⟩

theorem checkKindText_eq_clean_iff {kind : String} {u : Unit} :
    checkKindText (some kind) = ⟨u, []⟩ ↔ Text.isBlankText kind = false := by
  cases blank : Text.isBlankText kind <;> simp [checkKindText, Checked.require, blank]

/-- The check of a document finds nothing and reads a resource. -/
theorem Resource.check_eq_clean_iff {v : Value} {r : Resource} :
    Resource.check v = ⟨r, []⟩ ↔ Reads v r ∧ Text.isBlankText r.kind = false := by
  simp only [Resource.check, Checked.bind_eq_clean_iff, Checked.pure_eq_clean_iff, Value.requireStr_eq_clean_iff,
    Value.optionalObject_eq_clean_iff, Metadata.check_eq_clean_iff]
  constructor
  · rintro ⟨_, ⟨_, version, rfl⟩, _, ⟨_, kind, rfl⟩, _, ⟨w, d, held, metadata, rfl⟩, _, spec, _, status, _, text, rfl⟩
    exact ⟨⟨version, kind, ⟨w, held, metadata⟩, spec, status, rfl⟩, checkKindText_eq_clean_iff.mp text⟩
  · rintro ⟨⟨version, kind, ⟨w, held, metadata⟩, spec, status, rfl⟩, text⟩
    refine ⟨_, ⟨_, version, rfl⟩, _, ⟨_, kind, rfl⟩, _, ⟨w, _, held, metadata, rfl⟩, _, spec, _, status, (), ?_, rfl⟩
    exact checkKindText_eq_clean_iff.mpr text

theorem Resource.ofValue_eq_ok_iff {v : Value} {r : Resource} :
    Resource.ofValue v = .ok r ↔ Reads v r ∧ Text.isBlankText r.kind = false := by
  rw [ofValue]
  by_cases object : v.isObject = true
  · rw [if_pos object, Checked.finish_eq_ok_iff_clean, check_eq_clean_iff]
  · rw [if_neg object]
    constructor
    · rintro ⟨⟩
    · rintro ⟨reads, _⟩
      exact absurd (Value.isObject_of_field? reads.kind) object

/-! ### Pods -/

namespace Resource

section
variable {v : Value} {r : Resource}

theorem Reads.kindOf (reads : Reads v r) : kindOf v = r.kind := by
  rw [Cluster.kindOf, Value.fieldStr?_eq_some_iff.mpr reads.kind, Option.getD_some]

theorem Reads.specOf (reads : Reads v r) : specOf v = .ok r.spec := by
  rw [specOf_eq_ok_iff]
  have present := reads.spec
  cases spec : r.spec with
  | none =>
    rw [spec] at present
    exact .inl ⟨(Value.unset_iff_present? v "spec").mpr present, rfl⟩
  | some fields =>
    rw [spec] at present
    exact .inr ⟨fields, (Option.filter_eq_some_iff.mp present).1, rfl⟩

/-- What a resource says of its containers is what its document says. -/
theorem Reads.containers (reads : Reads v r) : Cluster.containers v = r.containers := by
  rw [Cluster.containers, reads.specOf, reads.kindOf]
  rfl

theorem Reads.podSecurityContext (reads : Reads v r) : Cluster.podSecurityContext v = r.podSecurityContext := by
  rw [Cluster.podSecurityContext, reads.specOf, reads.kindOf]
  rfl

end

/-! ### Resources as documents -/

/-- A document is read as a resource again, up to the document that it keeps. -/
structure RereadAs (w : Value) (r : Resource) : Prop where
  read : ofValue w = .ok { r with raw := w }
  encode : ({ r with raw := w } : Resource).encode = r.encode
  containers : Cluster.containers w = r.containers
  podSecurityContext : Cluster.podSecurityContext w = r.podSecurityContext

theorem rereadAs_of_reads {w : Value} {r : Resource} (reads : Reads w { r with raw := w })
    (text : Text.isBlankText r.kind = false) : RereadAs w r :=
  ⟨ofValue_eq_ok_iff.mpr ⟨reads, text⟩, rfl, reads.containers, reads.podSecurityContext⟩

theorem reads_encodeMetadata (m : Metadata) : Metadata.Reads (encodeMetadata m) m := by
  obtain ⟨name, ns, labels, annotations⟩ := m
  constructor
  · rfl
  · cases ns <;> cases labels <;> cases annotations <;> rfl
  · cases ns <;> cases labels <;> cases annotations <;> rfl
  · cases ns <;> cases labels <;> cases annotations <;> rfl

theorem reads_encode (r : Resource) : Reads r.encode { r with raw := r.encode } := by
  obtain ⟨version, kind, metadata, spec, status, raw⟩ := r
  constructor
  · rfl
  · rfl
  · exact ⟨encodeMetadata metadata, rfl, reads_encodeMetadata metadata⟩
  · cases spec <;> cases status <;> rfl
  · cases spec <;> cases status <;> rfl
  · rfl

/-! ### Keys in order -/

section
variable {v w : Value} (sorted : v.sortKeys = v)

include sorted

theorem metadata_reads_sortKeys {m : Metadata} (source : Metadata.Reads v m) (reads : Metadata.Reads w m) :
    Metadata.Reads w.sortKeys m where
  name := Value.field?_sortKeys_of_same sorted source.name reads.name
  namespaceName := Value.present?_sortKeys_of_same sorted source.namespaceName reads.namespaceName
  labels := Value.present?_sortKeys_of_same sorted source.labels reads.labels
  annotations := Value.present?_sortKeys_of_same sorted source.annotations reads.annotations

theorem reads_sortKeys {r : Resource} (source : Reads v r) (reads : Reads w { r with raw := w }) :
    Reads w.sortKeys { r with raw := w.sortKeys } := by
  obtain ⟨m, held, first⟩ := source.metadata
  obtain ⟨n, there, second⟩ := reads.metadata
  have moved : w.sortKeys.field? "metadata" = some n.sortKeys := by
    rw [Value.field?_sortKeys, there, Option.map_some]
  have inner : m.sortKeys = m := Value.sortKeys_of_field? sorted held
  exact {
    apiVersion := Value.field?_sortKeys_of_same sorted source.apiVersion reads.apiVersion
    kind := Value.field?_sortKeys_of_same sorted source.kind reads.kind
    metadata := ⟨n.sortKeys, moved, metadata_reads_sortKeys inner first second⟩
    spec := Value.present?_sortKeys_of_same sorted source.spec reads.spec
    status := Value.present?_sortKeys_of_same sorted source.status reads.status
    raw := rfl }

end

/-- A resource tells of its pods what its document tells. Written out as a value, it is read
    as the same resource again, also when the keys are then put in order, as they are in
    its own document. -/
theorem resource_reads_again {v : Value} {r : Resource} (read : ofValue v = .ok r) :
    r.containers = Cluster.containers v ∧ r.podSecurityContext = Cluster.podSecurityContext v ∧
      RereadAs r.encode r ∧ (v.sortKeys = v → RereadAs r.encode.sortKeys r) := by
  obtain ⟨reads, text⟩ := ofValue_eq_ok_iff.mp read
  have written := reads_encode r
  refine ⟨reads.containers.symm, reads.podSecurityContext.symm, rereadAs_of_reads written text, ?_⟩
  intro sorted
  exact rereadAs_of_reads (reads_sortKeys sorted reads written) text

/-- A deployment with labels and without a status. -/
def labelledDeployment : Value :=
  .object
    [("apiVersion", .string "apps/v1"), ("kind", .string "Deployment"),
      ("metadata", .object
        [("labels", .object [("app", .string "web"), ("tier", .string "front")]), ("name", .string "web")]),
      ("spec", .object [("template", .object [("spec", .object
        [("containers", .array [.object [("name", .string "app")]]), ("securityContext", .number (.int 7))])])]),
      ("status", .null)]

/-- Its name is written before the labels, and behind them once the keys are in order. -/
theorem resource_reads_again_deployment :
    ∃ r, ofValue labelledDeployment = .ok r ∧ labelledDeployment.sortKeys = labelledDeployment ∧
      r.containers = .ok [⟨"app", none, none, none⟩] ∧ RereadAs r.encode r ∧ RereadAs r.encode.sortKeys r := by
  have sorted : labelledDeployment.sortKeys = labelledDeployment := by rfl
  refine ⟨_, rfl, sorted, ?_⟩
  obtain ⟨containers, _, written, inOrder⟩ := resource_reads_again (v := labelledDeployment) rfl
  exact ⟨containers.trans rfl, written, inOrder sorted⟩

end Resource

end Cluster

end InfraAudit
