import InfraAudit.Proofs.Rule.Offenders

/-!
Lists of objects as containers. An object is read as a container when it has a name
(`holdsContainer_object_iff`), and each other part of the container comes from one key of
it (`Container.ReadsKeys`): whatever else an object holds, and of whatever form, changes
neither whether it is read nor what is read of it.
-/
namespace InfraAudit.Cluster

/-- A container has what an object holds under four keys, as far as it is of the right form. -/
structure Container.ReadsKeys (c : Container) (v : Value) : Prop where
  name : v.field? "name" = some (.string c.name)
  image : c.image = (v.field? "image").bind Value.str?
  resources : c.resources = (v.field? "resources").bind Requirements.read?
  securityContext : c.securityContext = (v.field? "securityContext").bind SecurityContext.read?

section
variable {v : Value} (object : v.isObject = true)

include object

theorem reads_object_iff (c : Container) : c.Reads v ↔ c.ReadsKeys v := by
  have part : ∀ index name, v.part? index name = v.field? name := Value.part?_of_object object
  constructor
  · rintro ⟨_, name, image, resources, securityContext⟩
    rw [part] at name image resources securityContext
    exact ⟨name, image, resources, securityContext⟩
  · rintro ⟨name, image, resources, securityContext⟩
    rw [← part 0] at name
    rw [← part 1] at image
    rw [← part 2] at resources
    rw [← part 3] at securityContext
    exact ⟨Value.standsFor_of_object object 4, name, image, resources, securityContext⟩

theorem holdsContainer_object_iff : HoldsContainer v ↔ v.HasString "name" := by
  unfold HoldsContainer Value.HasString
  rw [Value.part?_of_object object, Value.standsFor_of_object object]
  simp

end

section
variable {document : Value} {items : List Value}

/-- A list of containers is only found where an object stands under `spec`. -/
theorem containers_of_listed (workload : kindOf document ∈ workloadKinds)
    (listed : (describedPod document).field? "containers" = some (.array items)) :
    containers document = PodSpec.decodeContainers (FieldPath.field (podPath document) "containers") 0 items := by
  have spec : document.MaybeObject "spec" := by
    by_contra other
    rw [field?_describedPod_of_not_maybeObject other] at listed
    cases listed
  rw [containers_of_maybeObject workload spec, listed]

theorem forall₂_reads_iff (objects : ∀ v ∈ items, v.isObject = true) (cs : List Container) :
    List.Forall₂ (fun v c => Container.Reads c v) items cs ↔
      List.Forall₂ (fun v c => Container.ReadsKeys c v) items cs := by
  induction items generalizing cs with
  | nil => simp
  | cons v rest ih =>
    obtain ⟨first, later⟩ := List.forall_mem_cons.mp objects
    simp only [List.forall₂_cons_left_iff, reads_object_iff first, ih later]

/-- The entry of a list that stands behind others of a kind, and is not of it itself. -/
theorem getElem?_of_split {kind : Value → Prop} {before after : List Value} {v : Value}
    (split : items = before ++ v :: after) (good : ∀ w ∈ before, kind w) :
    items[before.length]? = some v ∧ ∀ j < before.length, ∀ w, items[j]? = some w → kind w := by
  subst split
  constructor
  · rw [List.getElem?_append_right (Nat.le_refl _), Nat.sub_self, List.getElem?_cons_zero]
  · intro j earlier w found
    rw [List.getElem?_append_left earlier] at found
    exact good w (List.mem_of_getElem? found)

/-- The containers of a workload that lists objects. They are read unless an object has no
    name, the first of which the error tells; and what is read of an object under a key
    depends on nothing else that it holds. -/
theorem containers_of_objects (workload : kindOf document ∈ workloadKinds)
    (listed : (describedPod document).field? "containers" = some (.array items))
    (objects : ∀ v ∈ items, v.isObject = true) :
    ((∃ e, containers document = .error e) ↔ ∃ v ∈ items, ¬ v.HasString "name") ∧
    (∀ e, containers document = .error e →
      ∃ i v reason, (items[i]? = some v ∧ ¬ v.HasString "name") ∧
        (∀ j < i, ∀ w, items[j]? = some w → w.HasString "name") ∧
        e = .malformed (FieldPath.item (FieldPath.field (podPath document) "containers") i) reason) ∧
    (∀ cs, containers document = .ok cs ↔ List.Forall₂ (fun v c => Container.ReadsKeys c v) items cs) := by
  have named : ∀ v ∈ items, HoldsContainer v ↔ v.HasString "name" :=
    fun v member => holdsContainer_object_iff (objects v member)
  rw [containers_of_listed workload listed]
  refine ⟨⟨?_, ?_⟩, ?_, ?_⟩
  · rintro ⟨e, refused⟩
    obtain ⟨before, v, after, _, split, _, nameless, _⟩ := PodSpec.decodeContainers_error refused
    have member : v ∈ items := by simp [split]
    exact ⟨v, member, fun name => nameless ((named v member).mpr name)⟩
  · rintro ⟨v, member, nameless⟩
    cases decoded : PodSpec.decodeContainers (FieldPath.field (podPath document) "containers") 0 items with
    | error e => exact ⟨e, rfl⟩
    | ok cs =>
      have all := (PodSpec.decodeContainers_eq_ok_iff _ 0 items cs).mp decoded
      obtain ⟨c, _, reads⟩ := PodSpec.exists_reads_of_mem all member
      exact absurd ((named v member).mp ((exists_reads_iff v).mp ⟨c, reads⟩)) nameless
  · intro e refused
    obtain ⟨before, v, after, reason, split, held, nameless, rfl⟩ := PodSpec.decodeContainers_error refused
    have inside : ∀ w ∈ before, w ∈ items := fun w member => by simp [split, member]
    obtain ⟨found, earlier⟩ := getElem?_of_split split
      (fun w member => (named w (inside w member)).mp (held w member))
    have lacks : ¬ v.HasString "name" := fun name => nameless ((named v (List.mem_of_getElem? found)).mpr name)
    exact ⟨before.length, v, reason, ⟨found, lacks⟩, earlier, by rw [Nat.zero_add]⟩
  · intro cs
    rw [PodSpec.decodeContainers_eq_ok_iff, forall₂_reads_iff objects]

end

/-- A container whose name is the only part of the right form. -/
def mistypedEntry (name : Value) : Value :=
  .object
    [("env", .array [.object [("value", .number (.int 8080))]]), ("image", .number (.int 42)), ("name", name),
      ("resources", .object [("limits", .null)]), ("securityContext", .string "none")]

/-- A deployment of some containers. -/
def deployment (entries : List Value) : Value :=
  .object
    [("kind", .string "Deployment"),
      ("spec", .object [("template", .object [("spec", .object [("containers", .array entries)])])])]

/-- A name is all that a container needs, and nothing else stands in for it. -/
theorem containers_of_objects_mistyped :
    containers (deployment [mistypedEntry (.string "app")]) = .ok [⟨"app", none, some ⟨none⟩, none⟩] ∧
      ∃ e, containers (deployment [mistypedEntry (.string "app"), mistypedEntry .null]) = .error e := by
  have objects : ∀ name, (mistypedEntry name).isObject = true := fun _ => rfl
  have nameless : ¬ (mistypedEntry .null).HasString "name" := by
    rintro ⟨s, held⟩
    cases held
  constructor
  · obtain ⟨_, _, read⟩ := @containers_of_objects (deployment [mistypedEntry (.string "app")]) _
      (by decide) rfl (by simp [objects])
    exact (read _).mpr (.cons ⟨rfl, rfl, rfl, rfl⟩ .nil)
  · obtain ⟨refused, _⟩ := @containers_of_objects
      (deployment [mistypedEntry (.string "app"), mistypedEntry .null]) _ (by decide) rfl (by simp [objects])
    exact refused.mpr ⟨_, List.mem_cons_of_mem _ (List.mem_singleton_self _), nameless⟩

end InfraAudit.Cluster
