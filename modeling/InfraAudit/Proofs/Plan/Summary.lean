import InfraAudit.Plan.Resource
import Mathlib.Data.List.Forall2

/-!
The two ways in which a plan counts its changes. The summary counts each raw action for
itself, while a resource is classified by the first of a creation, a deletion and an update
that its change has (`Change.isClassified_eq`). The classified resources are those of the
plan, each in one part (`perm_flatMap_byAction`), and a part has as many of them as the
summary counts, less those that an earlier part takes (`countP_and_not_add`).
-/
namespace InfraAudit.Plan

/-! ### Classification -/

/-- All actions that resources are classified by. -/
def Action.all : List Action := [.create, .update, .delete, .noOp]

theorem Action.mem_all (a : Action) : a ∈ all := by
  cases a <;> decide

/-- A change is classified by an action. -/
def Change.isClassified (c : Change) (a : Action) : Bool := Action.classify c.actions == a

theorem Change.has_iff (c : Change) (a : ChangeAction) : c.has a = true ↔ a ∈ c.actions := List.contains_iff_mem

/-- The raw actions by which a change is classified. -/
theorem Change.isClassified_eq (c : Change) (a : Action) :
    c.isClassified a =
      match a with
      | .create => c.has .create
      | .delete => c.has .delete && !c.has .create
      | .update => c.has .update && !(c.has .create || c.has .delete)
      | .noOp => !(c.has .create || c.has .delete || c.has .update) := by
  unfold isClassified Action.classify
  simp only [← c.has_iff]
  by_cases creates : c.has .create
  · cases a <;> simp [creates]
  · by_cases deletes : c.has .delete
    · cases a <;> simp [creates, deletes]
    · by_cases updates : c.has .update
      · cases a <;> simp [creates, deletes, updates]
      · cases a <;> simp [creates, deletes, updates]

/-- Changes with the same raw actions, in any order and number. -/
def Change.SameActions (c d : Change) : Prop := ∀ a, a ∈ c.actions ↔ a ∈ d.actions

theorem Change.SameActions.has_eq {c d : Change} (same : c.SameActions d) (a : ChangeAction) : c.has a = d.has a := by
  rw [Bool.eq_iff_iff, c.has_iff, d.has_iff]
  exact same a

theorem Change.SameActions.isClassified_eq {c d : Change} (same : c.SameActions d) (a : Action) :
    c.isClassified a = d.isClassified a := by
  simp only [Change.isClassified_eq, same.has_eq]

/-! ### Parts of lists -/

section
variable {α β : Type}

theorem countP_and_not_add (keep other : α → Bool) (xs : List α) :
    xs.countP (fun x => keep x && !other x) + xs.countP (fun x => keep x && other x) = xs.countP keep := by
  rw [List.countP_eq_countP_filter_add xs keep other, List.countP_filter, List.countP_filter, Nat.add_comm]

theorem countP_of_forall₂ {p : α → Bool} {q : β → Bool} {xs : List α} {ys : List β}
    (same : List.Forall₂ (fun x y => p x = q y) xs ys) : xs.countP p = ys.countP q := by
  induction same with
  | nil => rfl
  | cons first _ ih => rw [List.countP_cons, List.countP_cons, first, ih]

/-- Lists of the items under each key are the whole list, if each item has one of the keys. -/
theorem perm_flatMap_filter [DecidableEq β] (key : α → β) {keys : List β} (apart : keys.Nodup) {xs : List α}
    (keyed : ∀ x ∈ xs, key x ∈ keys) : (keys.flatMap fun k => xs.filter (key · == k)).Perm xs := by
  induction keys generalizing xs with
  | nil =>
    have none : xs = [] := List.eq_nil_iff_forall_not_mem.mpr (fun x member => List.not_mem_nil (keyed x member))
    rw [none]
    exact List.Perm.nil
  | cons k rest ih =>
    obtain ⟨fresh, apart⟩ := List.nodup_cons.mp apart
    -- The other keys find their items among those that do not have the first key.
    have others : ∀ l ∈ rest, xs.filter (key · == l) = (xs.filter (!key · == k)).filter (key · == l) := by
      intro l member
      rw [List.filter_filter]
      apply List.filter_congr
      intro x _
      by_cases held : key x = l
      · have differs : key x ≠ k := fun first => fresh (first ▸ held ▸ member)
        simp [held, held ▸ differs]
      · simp [held]
    have later : (rest.flatMap fun l => xs.filter (key · == l)).Perm (xs.filter (!key · == k)) := by
      rw [List.flatMap_congr others]
      apply ih apart
      intro x member
      obtain ⟨among, differs⟩ := List.mem_filter.mp member
      exact (List.mem_cons.mp (keyed x among)).resolve_left (by simpa using differs)
    rw [List.flatMap_cons]
    exact (later.append_left _).trans (List.filter_append_perm (key · == k) xs)

end

/-! ### Parts of plans -/

section
variable (p : Plan)

/-- Each occurrence of a resource is in the part of one action. -/
theorem perm_flatMap_byAction : (Action.all.flatMap p.byAction).Perm p.resources :=
  perm_flatMap_filter Resource.action (by decide) (fun r _ => r.action.mem_all)

theorem length_byAction (a : Action) :
    (p.byAction a).length = p.resourceChanges.countP (fun c => c.change.isClassified a) := by
  rw [byAction, ← List.countP_eq_length_filter, resources, List.countP_map]
  rfl

theorem length_byAction_create : (p.byAction .create).length = p.summary.adds := by
  rw [length_byAction]
  simp only [Change.isClassified_eq]
  rfl

theorem length_byAction_delete :
    (p.byAction .delete).length + p.resourceChanges.countP (fun c => c.change.has .delete && c.change.has .create) =
      p.summary.destroys := by
  rw [length_byAction]
  simp only [Change.isClassified_eq]
  exact countP_and_not_add _ _ _

theorem length_byAction_update :
    (p.byAction .update).length +
        p.resourceChanges.countP
          (fun c => c.change.has .update && (c.change.has .create || c.change.has .delete)) =
      p.summary.changes := by
  rw [length_byAction]
  simp only [Change.isClassified_eq]
  exact countP_and_not_add _ _ _

variable {p}

/-- Plans whose changes have the same raw actions, in any order and number. -/
def SameActions (p q : Plan) : Prop :=
  List.Forall₂ (fun c d => c.change.SameActions d.change) p.resourceChanges q.resourceChanges

theorem SameActions.countOf_eq {q : Plan} (same : p.SameActions q) (a : ChangeAction) : p.countOf a = q.countOf a :=
  countP_of_forall₂ (same.imp (fun _ _ agree => agree.has_eq a))

theorem SameActions.length_byAction_eq {q : Plan} (same : p.SameActions q) (a : Action) :
    (p.byAction a).length = (q.byAction a).length := by
  rw [length_byAction, length_byAction]
  exact countP_of_forall₂ (same.imp (fun _ _ agree => agree.isClassified_eq a))

theorem SameActions.summary_eq {q : Plan} (same : p.SameActions q) : p.summary = q.summary := by
  have total : p.resourceChanges.length = q.resourceChanges.length := List.Forall₂.length_eq same
  unfold summary
  rw [same.countOf_eq, same.countOf_eq, same.countOf_eq, total]

end

/-- The parts into which classification divides a plan, and the counts of its summary. -/
theorem byAction_reconciles (p : Plan) :
    -- The parts keep the plan's order, and are the whole plan when put together.
    (∀ a, (p.byAction a).Sublist p.resources ∧ ∀ r ∈ p.byAction a, r.action = a) ∧
    (p.byAction .create ++ p.byAction .update ++ p.byAction .delete ++ p.byAction .noOp).Perm p.resources ∧
    (p.byAction .create).length + (p.byAction .update).length + (p.byAction .delete).length +
        (p.byAction .noOp).length = p.summary.totalResources ∧
    (p.byAction .create).length = p.summary.adds ∧
    (p.byAction .delete).length + p.resourceChanges.countP (fun c => c.change.has .delete && c.change.has .create) =
      p.summary.destroys ∧
    (p.byAction .update).length +
        p.resourceChanges.countP
          (fun c => c.change.has .update && (c.change.has .create || c.change.has .delete)) =
      p.summary.changes ∧
    (∀ q, p.SameActions q → q.summary = p.summary ∧ ∀ a, (q.byAction a).length = (p.byAction a).length) := by
  have parts : (p.byAction .create ++ p.byAction .update ++ p.byAction .delete ++ p.byAction .noOp).Perm
      p.resources := by
    have whole := p.perm_flatMap_byAction
    simpa [Action.all] using whole
  have sizes := parts.length_eq
  simp only [List.length_append, resources, List.length_map] at sizes
  refine ⟨fun a => ⟨List.filter_sublist, ?_⟩, parts, sizes, p.length_byAction_create, p.length_byAction_delete,
    p.length_byAction_update, ?_⟩
  · intro r member
    exact beq_iff_eq.mp (List.mem_filter.mp member).2
  · intro q same
    exact ⟨same.summary_eq.symm, fun a => (same.length_byAction_eq a).symm⟩

/-- A plan with one change of some raw actions. -/
def singleChange (actions : List ChangeAction) : Plan :=
  ⟨"1.2", "1.6.0", none, none,
    [⟨"aws_db_instance.main", none, .managed, "aws_db_instance", "main", "aws", ⟨actions, none, none, none, none, none⟩⟩],
    none, none⟩

/-- A replacement counts as one addition and one removal, however often and in which order
    it lists them, and is classified as a creation. -/
theorem byAction_reconciles_replacement :
    (singleChange [.delete, .create]).SameActions (singleChange [.create, .delete, .create]) ∧
      (singleChange [.create, .delete, .create]).summary = ⟨1, 0, 1, 1⟩ ∧
      ((singleChange [.create, .delete, .create]).byAction .delete).length = 0 := by
  have same : (singleChange [.delete, .create]).SameActions (singleChange [.create, .delete, .create]) := by
    refine .cons ?_ .nil
    intro a
    cases a <;> decide
  obtain ⟨_, _, _, _, _, _, agree⟩ := byAction_reconciles (singleChange [.delete, .create])
  obtain ⟨summary, lengths⟩ := agree _ same
  exact ⟨same, summary.trans (by decide), (lengths .delete).trans (by decide)⟩

end InfraAudit.Plan
