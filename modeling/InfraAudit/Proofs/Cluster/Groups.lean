import InfraAudit.Cluster.Resource
import InfraAudit.Proofs.Plan.Drift
import InfraAudit.Proofs.Plan.Summary
import InfraAudit.Proofs.Text.Bytes
import Mathlib.Data.List.Induction

/-!
Groups of resources. Resources are added to their groups one after the other; what comes
out is, for each key in order, the selection of the resources that have it
(`groupBy_eq`). So the groups divide the resources (`divides_groupBy`), and the group of
the default namespace merges the resources that name it with those that name none
(`merges_default`).
-/
namespace InfraAudit.Cluster.Resource

open Plan (insertKey mem_insertKey)

section
variable (key : Resource → String)

/-- The keys of some resources, in order and each once. -/
def keysOf (rs : List Resource) : List String := (rs.map key).foldl (fun keys k => insertKey k keys) []

theorem mem_keysOf_iff {rs : List Resource} {k : String} : k ∈ keysOf key rs ↔ ∃ r ∈ rs, key r = k := by
  rw [keysOf, Plan.mem_foldl_insertKey]
  simp

theorem pairwise_keysOf (rs : List Resource) : (keysOf key rs).Pairwise (· < ·) :=
  Plan.pairwise_foldl_insertKey List.Pairwise.nil

theorem nodup_keysOf (rs : List Resource) : (keysOf key rs).Nodup := (pairwise_keysOf key rs).imp String.ne_of_lt

/-! ### Adding resources -/

/-- A resource comes last in the group of its key, and the other groups stay as they are. -/
theorem addToGroup_map {k : String} {keys : List String} (ordered : keys.Pairwise (· < ·)) {group : String → List Resource}
    (fresh : k ∉ keys → group k = []) (r : Resource) :
    addToGroup k r (keys.map fun l => (l, group l)) =
      (insertKey k keys).map fun l => (l, if l = k then group l ++ [r] else group l) := by
  induction keys with
  | nil => simp [addToGroup, insertKey, fresh]
  | cons first rest ih =>
    obtain ⟨before, later⟩ := List.pairwise_cons.mp ordered
    -- The groups after that of the key have other keys.
    have others : ∀ keys : List String, (∀ l ∈ keys, k < l) →
        keys.map (fun l => (l, if l = k then group l ++ [r] else group l)) = keys.map fun l => (l, group l) := by
      intro keys after
      apply List.map_congr_left
      intro l member
      rw [if_neg (Ne.symm (String.ne_of_lt (after l member)))]
    rw [List.map_cons, addToGroup, insertKey]
    split
    · rename_i ahead
      have after : ∀ l ∈ first :: rest, k < l := by
        intro l member
        rcases List.mem_cons.mp member with rfl | among
        · exact ahead
        · exact String.lt_trans ahead (before l among)
      have unknown : k ∉ first :: rest := fun member => String.lt_irrefl k (after k member)
      rw [List.map_cons, others _ after, if_pos rfl, fresh unknown]
      rfl
    · split
      · rename_i same
        subst same
        rw [List.map_cons, others rest before, if_pos rfl]
      · rename_i differs
        have unknown : k ∉ rest → group k = [] := fun missing => fresh (by simp [differs, missing])
        rw [List.map_cons, if_neg (Ne.symm differs), ih later unknown]

theorem groupBy_append_singleton (rs : List Resource) (r : Resource) :
    groupBy key (rs ++ [r]) = addToGroup (key r) r (groupBy key rs) := by
  simp [groupBy]

theorem groupBy_eq (rs : List Resource) :
    groupBy key rs = (keysOf key rs).map fun k => (k, rs.filter (key · == k)) := by
  induction rs using List.reverseRecOn with
  | nil => rfl
  | append_singleton rs r ih =>
    have fresh : key r ∉ keysOf key rs → rs.filter (key · == key r) = [] := by
      intro missing
      rw [List.filter_eq_nil_iff]
      intro s member same
      exact missing ((mem_keysOf_iff key).mpr ⟨s, member, beq_iff_eq.mp same⟩)
    have keys : keysOf key (rs ++ [r]) = insertKey (key r) (keysOf key rs) := by simp [keysOf]
    rw [groupBy_append_singleton, ih, addToGroup_map (pairwise_keysOf key rs) fresh, keys]
    apply List.map_congr_left
    intro k _
    by_cases same : k = key r
    · simp [same]
    · simp [same, Ne.symm same]

theorem mem_groupBy_iff {rs : List Resource} {k : String} {group : List Resource} :
    (k, group) ∈ groupBy key rs ↔ group = rs.filter (key · == k) ∧ group ≠ [] := by
  have found : k ∈ keysOf key rs ↔ rs.filter (key · == k) ≠ [] := by
    rw [mem_keysOf_iff, ne_eq, List.filter_eq_nil_iff]
    simp
  rw [groupBy_eq, List.mem_map]
  constructor
  · rintro ⟨l, member, same⟩
    cases same
    exact ⟨rfl, found.mp member⟩
  · rintro ⟨rfl, filled⟩
    exact ⟨k, found.mpr filled, rfl⟩

/-- Groups divide resources by a key: the keys are in the order of their bytes, no group is
    empty, and every occurrence of a resource stands in the one group of its key, where the
    resources keep their order. -/
structure Divides (rs : List Resource) (groups : List (String × List Resource)) : Prop where
  ordered : groups.Pairwise (fun g h => Text.bytes g.1 < Text.bytes h.1)
  filled : ∀ g ∈ groups, g.2 ≠ []
  kept : ∀ g ∈ groups, g.2.Sublist rs
  keyed : ∀ g ∈ groups, ∀ r ∈ g.2, key r = g.1
  whole : (groups.flatMap Prod.snd).Perm rs

theorem divides_groupBy (rs : List Resource) : Divides key rs (groupBy key rs) where
  ordered := by
    rw [groupBy_eq, List.pairwise_map]
    exact (pairwise_keysOf key rs).imp Text.bytes_lt_iff.mpr
  filled := fun _ member => ((mem_groupBy_iff key).mp member).2
  kept := by
    rintro ⟨k, group⟩ member
    obtain ⟨rfl, _⟩ := (mem_groupBy_iff key).mp member
    exact List.filter_sublist
  keyed := by
    rintro ⟨k, group⟩ member r among
    obtain ⟨rfl, _⟩ := (mem_groupBy_iff key).mp member
    exact beq_iff_eq.mp (List.mem_filter.mp among).2
  whole := by
    rw [groupBy_eq, List.flatMap_map]
    exact Plan.perm_flatMap_filter key (nodup_keysOf key rs)
      (fun r member => (mem_keysOf_iff key).mpr ⟨r, member, rfl⟩)

end

/-! ### Namespaces -/

/-- The resources that name no namespace. -/
def unnamespaced (rs : List Resource) : List Resource := rs.filter (·.namespaceName.isNone)

/-- Some of the resources of a list, in their order: those of two selections. -/
structure Merges (rs first second group : List Resource) : Prop where
  kept : group.Sublist rs
  whole : group.Perm (first ++ second)

theorem inDefault_eq (r : Resource) :
    (r.namespaceOrDefault == defaultNamespace) = (r.namespaceName == some defaultNamespace || r.namespaceName.isNone) := by
  unfold namespaceOrDefault
  cases r.namespaceName <;> simp

theorem merges_default (rs : List Resource) :
    Merges rs (inNamespace defaultNamespace rs) (unnamespaced rs) (rs.filter (·.namespaceOrDefault == defaultNamespace)) where
  kept := List.filter_sublist
  whole := by
    have parts := List.filter_append_perm (fun r : Resource => r.namespaceName == some defaultNamespace)
      (rs.filter (·.namespaceOrDefault == defaultNamespace))
    have named : (rs.filter (·.namespaceOrDefault == defaultNamespace)).filter
        (fun r => r.namespaceName == some defaultNamespace) = inNamespace defaultNamespace rs := by
      rw [List.filter_filter, inNamespace]
      apply List.filter_congr
      intro r _
      rw [inDefault_eq]
      cases r.namespaceName == some defaultNamespace <;> rfl
    have unnamed : (rs.filter (·.namespaceOrDefault == defaultNamespace)).filter
        (fun r => !(r.namespaceName == some defaultNamespace)) = unnamespaced rs := by
      rw [List.filter_filter, unnamespaced]
      apply List.filter_congr
      intro r _
      rw [inDefault_eq]
      cases r.namespaceName <;> simp
    rw [named, unnamed] at parts
    exact parts.symm

/-- Only one list merges two selections. -/
theorem Merges.unique {rs first second group : List Resource} {keep : Resource → Bool}
    (selected : Merges rs first second (rs.filter keep)) (merges : Merges rs first second group) : group = rs.filter keep := by
  have same : group.Perm (rs.filter keep) := merges.whole.trans selected.whole.symm
  have among : group.filter keep = group := by
    rw [List.filter_eq_self]
    intro r member
    exact (List.mem_filter.mp (same.mem_iff.mp member)).2
  have inside : group.Sublist (rs.filter keep) := among ▸ merges.kept.filter keep
  exact inside.eq_of_length same.length_eq

theorem namespaceOrDefault_beq {ns : String} (other : ns ≠ defaultNamespace) (r : Resource) :
    (r.namespaceOrDefault == ns) = (r.namespaceName == some ns) := by
  unfold namespaceOrDefault
  cases r.namespaceName <;> simp [Ne.symm other]

/-- The groups of a list of resources by kind and by namespace. -/
theorem groups_divide_resources (rs : List Resource) :
    Divides kind rs (groupByKind rs) ∧
    Divides namespaceOrDefault rs (groupByNamespace rs) ∧
    (∀ k group, (k, group) ∈ groupByKind rs ↔ group = ofKind k rs ∧ group ≠ []) ∧
    (∀ ns group, ns ≠ "default" → ((ns, group) ∈ groupByNamespace rs ↔ group = inNamespace ns rs ∧ group ≠ [])) ∧
    (∀ group, ("default", group) ∈ groupByNamespace rs ↔
      Merges rs (inNamespace "default" rs) (unnamespaced rs) group ∧ group ≠ []) := by
  refine ⟨divides_groupBy kind rs, divides_groupBy namespaceOrDefault rs, fun k group => mem_groupBy_iff kind, ?_, ?_⟩
  · intro ns group other
    have selected : rs.filter (·.namespaceOrDefault == ns) = inNamespace ns rs := by
      rw [inNamespace]
      exact List.filter_congr (fun r _ => namespaceOrDefault_beq other r)
    rw [groupByNamespace, mem_groupBy_iff, selected]
  · intro group
    have merged : group = rs.filter (·.namespaceOrDefault == defaultNamespace) ↔
        Merges rs (inNamespace defaultNamespace rs) (unnamespaced rs) group := by
      constructor
      · rintro rfl
        exact merges_default rs
      · exact (merges_default rs).unique
    exact (mem_groupBy_iff namespaceOrDefault).trans (and_congr_left' merged)

end InfraAudit.Cluster.Resource
