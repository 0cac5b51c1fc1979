import InfraAudit.Value

/-!
Values whose keys are in order. Sorted fields have their keys in order and each key once
(`inOrder_sortFields`), so that sorting twice changes nothing more (`sortKeys_sortKeys`)
and a key can be left out before or after (`sortKeys_without`). Values that are the same
when sorted say the same, whatever the order of their fields is (`SameBut`): they have the
same under each key (`SameBut.field?`).
-/
namespace InfraAudit.Value

/-! ### Fields in order -/

/-- The keys are in order and differ from each other. -/
def InOrder (fields : Fields) : Prop := fields.Pairwise (fun f g => f.1 < g.1)

section
variable {key : String} {value : Value} {fields : Fields}

theorem mem_insertField {f : String × Value} (member : f ∈ insertField key value fields) :
    f = (key, value) ∨ f ∈ fields := by
  induction fields with
  | nil => exact .inl (List.mem_singleton.mp member)
  | cons g rest ih =>
    obtain ⟨k, v⟩ := g
    rw [insertField] at member
    split at member
    · exact List.mem_cons.mp member
    · split at member
      · rcases List.mem_cons.mp member with rfl | later
        · exact .inl rfl
        · exact .inr (List.mem_cons_of_mem _ later)
      · rcases List.mem_cons.mp member with rfl | later
        · exact .inr List.mem_cons_self
        · exact (ih later).imp id (List.mem_cons_of_mem _)

theorem insertField_of_before (before : ∀ f ∈ fields, key < f.1) :
    insertField key value fields = (key, value) :: fields := by
  cases fields with
  | nil => rfl
  | cons f rest => exact if_pos (before f List.mem_cons_self)

theorem inOrder_insertField (ordered : InOrder fields) : InOrder (insertField key value fields) := by
  induction fields with
  | nil => exact List.pairwise_singleton _ _
  | cons g rest ih =>
    obtain ⟨k, v⟩ := g
    obtain ⟨first, others⟩ := List.pairwise_cons.mp ordered
    rw [insertField]
    split
    · rename_i before
      refine List.pairwise_cons.mpr ⟨?_, ordered⟩
      intro f member
      rcases List.mem_cons.mp member with rfl | later
      · exact before
      · exact String.lt_trans before (first f later)
    · rename_i after
      split
      · rename_i same
        subst same
        exact List.pairwise_cons.mpr ⟨first, others⟩
      · rename_i differs
        refine List.pairwise_cons.mpr ⟨?_, ih others⟩
        intro f member
        rcases mem_insertField member with rfl | later
        · exact Std.lt_of_le_of_ne (String.not_lt.mp after) (Ne.symm differs)
        · exact first f later

end

theorem InOrder.nodup_keys {fields : Fields} (ordered : InOrder fields) : (fields.map Prod.fst).Nodup :=
  List.pairwise_map.mpr (ordered.imp String.ne_of_lt)

theorem inOrder_sortFields (fields : Fields) : InOrder (sortFields fields) := by
  induction fields with
  | nil => exact List.Pairwise.nil
  | cons f rest ih => exact inOrder_insertField ih

theorem mem_sortFields {fields : Fields} {f : String × Value} (member : f ∈ sortFields fields) :
    ∃ g ∈ fields, f = (g.1, g.2.sortKeys) := by
  induction fields with
  | nil => cases member
  | cons g rest ih =>
    rcases mem_insertField member with rfl | later
    · exact ⟨g, List.mem_cons_self, rfl⟩
    · obtain ⟨h, among, rfl⟩ := ih later
      exact ⟨h, List.mem_cons_of_mem _ among, rfl⟩

/-! ### Values in order -/

/-- Sorting does not change fields that are in order already. -/
theorem sortFields_eq_self {fields : Fields} (ordered : InOrder fields) (sorted : ∀ f ∈ fields, f.2.sortKeys = f.2) :
    sortFields fields = fields := by
  induction fields with
  | nil => rfl
  | cons f rest ih =>
    obtain ⟨first, others⟩ := List.pairwise_cons.mp ordered
    rw [sortFields, sorted f List.mem_cons_self, ih others (fun g later => sorted g (List.mem_cons_of_mem _ later))]
    exact insertField_of_before first

theorem sortItems_eq_self {items : List Value} (sorted : ∀ v ∈ items, v.sortKeys = v) : sortItems items = items := by
  induction items with
  | nil => rfl
  | cons v rest ih =>
    obtain ⟨first, later⟩ := List.forall_mem_cons.mp sorted
    rw [sortItems, first, ih later]

/-- An object that is made of fields has its keys in order if the values of the fields do. -/
theorem sortKeys_ofFields {fields : Fields} (sorted : ∀ f ∈ fields, f.2.sortKeys = f.2) :
    (ofFields fields).sortKeys = ofFields fields := by
  -- Putting a field into an object keeps its keys in order, and adds no other value.
  have keeps : ∀ {acc : Fields}, InOrder acc → (∀ f ∈ acc, f.2.sortKeys = f.2) →
      sortFields (fields.foldl (fun acc f => insertField f.1 f.2 acc) acc) =
        fields.foldl (fun acc f => insertField f.1 f.2 acc) acc := by
    induction fields with
    | nil => exact fun ordered values => sortFields_eq_self ordered values
    | cons f rest ih =>
      intro acc ordered values
      obtain ⟨first, later⟩ := List.forall_mem_cons.mp sorted
      refine ih later (inOrder_insertField ordered) fun g member => ?_
      rcases mem_insertField member with rfl | old
      · exact first
      · exact values g old
  exact congrArg Value.object (keeps List.Pairwise.nil (List.forall_mem_nil _))

/-! ### Sorting twice -/

-- By recursion over the value; of fields, only the values are sorted again.
mutual

theorem sortKeys_sortKeys (v : Value) : v.sortKeys.sortKeys = v.sortKeys := by
  cases v with
  | array items => exact congrArg Value.array (sortItems_sortItems items)
  | object fields =>
    have sorted : ∀ f ∈ sortFields fields, f.2.sortKeys = f.2 := by
      intro f member
      obtain ⟨g, among, rfl⟩ := mem_sortFields member
      exact sortKeys_sortKeys_of_mem fields g among
    exact congrArg Value.object (sortFields_eq_self (inOrder_sortFields fields) sorted)
  | _ => rfl

theorem sortItems_sortItems (items : List Value) : sortItems (sortItems items) = sortItems items := by
  cases items with
  | nil => rfl
  | cons v rest =>
    rw [sortItems, sortItems, sortKeys_sortKeys v, sortItems_sortItems rest]

theorem sortKeys_sortKeys_of_mem (fields : Fields) :
    ∀ f ∈ fields, f.2.sortKeys.sortKeys = f.2.sortKeys := by
  cases fields with
  | nil => exact List.forall_mem_nil _
  | cons f rest =>
    obtain ⟨k, v⟩ := f
    exact List.forall_mem_cons.mpr ⟨sortKeys_sortKeys v, sortKeys_sortKeys_of_mem rest⟩

end

/-! ### Values without a key -/

/-- An object without the field of a key; any other value as it is. -/
def without (key : String) : Value → Value
  | .object fields => .object (fields.filter (fun f => f.1 != key))
  | v => v

theorem filter_insertField {fields : Fields} (ordered : InOrder fields) (key k : String) (value : Value) :
    (insertField k value fields).filter (fun f => f.1 != key) =
      if k = key then fields.filter (fun f => f.1 != key)
      else insertField k value (fields.filter (fun f => f.1 != key)) := by
  induction fields with
  | nil => by_cases same : k = key <;> simp [insertField, same]
  | cons g rest ih =>
    obtain ⟨l, v⟩ := g
    obtain ⟨first, others⟩ := List.pairwise_cons.mp ordered
    rw [insertField]
    split
    · rename_i before
      -- The new field comes before all others, also before those that are kept.
      have ahead : ∀ f ∈ ((l, v) :: rest).filter (fun f => f.1 != key), k < f.1 := by
        intro f member
        rcases List.mem_cons.mp (List.mem_filter.mp member).1 with rfl | later
        · exact before
        · exact String.lt_trans before (first f later)
      rw [insertField_of_before ahead]
      by_cases same : k = key <;> simp [same]
    · rename_i after
      split
      · rename_i equal
        subst equal
        by_cases same : k = key <;> simp [insertField, same]
      · rename_i differs
        rw [List.filter_cons, ih others, List.filter_cons]
        by_cases same : k = key
        · simp [same]
        · by_cases out : l = key
          · simp [same, out]
          · simp [same, out, insertField, after, differs]

theorem sortFields_filter (key : String) (fields : Fields) :
    sortFields (fields.filter (fun f => f.1 != key)) = (sortFields fields).filter (fun f => f.1 != key) := by
  induction fields with
  | nil => rfl
  | cons f rest ih =>
    obtain ⟨k, v⟩ := f
    rw [sortFields, filter_insertField (inOrder_sortFields rest), ← ih, List.filter_cons]
    by_cases same : k = key <;> simp [same, sortFields]

/-- A key is left out before the keys are sorted or after. -/
theorem sortKeys_without (key : String) (v : Value) : (v.without key).sortKeys = v.sortKeys.without key := by
  cases v with
  | object fields => exact congrArg Value.object (sortFields_filter key fields)
  | _ => rfl

theorem field?_without {key k : String} (other : k ≠ key) (v : Value) : (v.without key).field? k = v.field? k := by
  cases v with
  | object fields =>
    rw [without, field?, field?]
    induction fields with
    | nil => rfl
    | cons f rest ih =>
      obtain ⟨l, w⟩ := f
      by_cases same : l = key
      · subst same
        simp [ih, List.lookup_cons, beq_eq_false_iff_ne.mpr other]
      · simp [same, ih, List.lookup_cons]
  | _ => rfl

/-! ### Values that say the same -/

/-- What stands under a key of sorted fields is what stood there before, with its own
    keys in order. -/
theorem field?_sortKeys (k : String) (v : Value) : v.sortKeys.field? k = (v.field? k).map sortKeys := by
  cases v with
  | object fields =>
    rw [sortKeys, field?, field?]
    induction fields with
    | nil => rfl
    | cons f rest ih =>
      obtain ⟨l, w⟩ := f
      rw [sortFields, lookup_insertField, ih, List.lookup_cons]
      by_cases same : k = l
      · simp [same]
      · simp [same, beq_eq_false_iff_ne.mpr same]
  | _ => rfl

theorem isNull_sortKeys (v : Value) : v.sortKeys.isNull = v.isNull := by
  cases v <;> rfl

theorem present?_sortKeys (k : String) (v : Value) : v.sortKeys.present? k = (v.present? k).map sortKeys := by
  rw [present?, present?, field?_sortKeys]
  cases v.field? k with
  | none => rfl
  | some w =>
    rw [Option.map_some, Option.filter_some, Option.filter_some, isNull_sortKeys]
    split <;> rfl

section
variable {v w : Value} {k : String} {o : Option Value} (sorted : v.sortKeys = v)

include sorted

-- What both values have under a key has its keys in order in the first one, so putting those
-- of the second one in order does not change it.

theorem field?_sortKeys_of_same (source : v.field? k = o) (held : w.field? k = o) : w.sortKeys.field? k = o := by
  rw [field?_sortKeys, held, ← source, ← field?_sortKeys, sorted]

theorem present?_sortKeys_of_same (source : v.present? k = o) (held : w.present? k = o) :
    w.sortKeys.present? k = o := by
  rw [present?_sortKeys, held, ← source, ← present?_sortKeys, sorted]

theorem sortKeys_of_field? {m : Value} (held : v.field? k = some m) : m.sortKeys = m := by
  have same := field?_sortKeys k v
  rw [sorted, held] at same
  exact (Option.some.inj same).symm

end

/-- Values that say the same, but for what they have under a key. -/
def SameBut (key : String) (v w : Value) : Prop := (v.without key).sortKeys = (w.without key).sortKeys

/-- Values that say the same have the same under any other key, up to the order of keys. -/
theorem SameBut.field? {key : String} {v w : Value} (same : v.SameBut key w) {k : String} (other : k ≠ key) :
    (v.field? k).map sortKeys = (w.field? k).map sortKeys := by
  calc (v.field? k).map sortKeys = (v.without key).sortKeys.field? k := by rw [field?_sortKeys, field?_without other]
    _ = (w.without key).sortKeys.field? k := by rw [same]
    _ = (w.field? k).map sortKeys := by rw [field?_sortKeys, field?_without other]

/-- A value with its keys in order says the same as before. -/
theorem sameBut_sortKeys {key : String} {v w : Value} (same : v.without key = w.without key) :
    v.SameBut key w.sortKeys := by
  rw [SameBut, ← sortKeys_without, sortKeys_sortKeys, same]

end InfraAudit.Value
