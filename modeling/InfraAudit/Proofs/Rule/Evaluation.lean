import InfraAudit.Proofs.Rule.Registration
import Mathlib.Data.List.TakeWhile

/-!
What engines report about resources. Every rule that applies adds its own outcome
to an evaluation (`Rule.contribution`) and touches nothing that other rules add, so
that a rule which fails takes away no finding and no failure but its own.
-/
namespace InfraAudit

namespace Evaluation

@[simp] theorem append_empty (a : Evaluation) : a ++ empty = a := by
  cases a with
  | mk findings failures =>
    exact congrArg₂ Evaluation.mk (List.append_nil findings) (List.append_nil failures)

@[simp] theorem empty_append (a : Evaluation) : empty ++ a = a := rfl

theorem append_assoc (a b c : Evaluation) : a ++ b ++ c = a ++ (b ++ c) :=
  congrArg₂ Evaluation.mk (List.append_assoc ..) (List.append_assoc ..)

end Evaluation

namespace Rule

/-! ### One target -/

/-- What a rule says about a target: its finding, nothing, or its failure. -/
def outcome (t : Target) (r : Rule) : Evaluation :=
  match r.evaluate t with
  | .ok (some f) => ⟨[f], []⟩
  | .ok none => .empty
  | .error e => ⟨[], [r.failure t e]⟩

/-- What a rule adds to the evaluation of a target: its outcome if it applies. -/
def contribution (t : Target) (r : Rule) : Evaluation :=
  if r.info.appliesTo t.resourceType then r.outcome t else .empty

/-- What one rule preserves: all that was recorded before. -/
theorem record_eq (t : Target) (sofar : Evaluation) (r : Rule) :
    record t sofar r = sofar ++ r.outcome t := by
  unfold record outcome
  cases r.evaluate t with
  | ok found =>
    cases found with
    | none => exact (Evaluation.append_empty sofar).symm
    | some f => exact congrArg (Evaluation.mk _) (List.append_nil _).symm
  | error e => exact congrArg (Evaluation.mk · _) (List.append_nil _).symm

theorem foldl_record (t : Target) (sofar : Evaluation) (rules : List Rule) :
    rules.foldl (record t) sofar = sofar ++ .concat (rules.map (outcome t)) := by
  induction rules generalizing sofar with
  | nil => exact (Evaluation.append_empty sofar).symm
  | cons r rest ih =>
    rw [List.foldl_cons, ih, record_eq, Evaluation.append_assoc]
    rfl

theorem evaluateAll_cons (t : Target) (r : Rule) (rest : List Rule) :
    evaluateAll (r :: rest) t = r.contribution t ++ evaluateAll rest t := by
  unfold evaluateAll contribution
  by_cases applies : r.info.appliesTo t.resourceType
  · rw [List.filter_cons, if_pos applies, if_pos applies, foldl_record, foldl_record]
    rfl
  · rw [List.filter_cons, if_neg applies, if_neg applies, Evaluation.empty_append]

/-- Rules do not see each other: those before and those after report as on their own. -/
theorem evaluateAll_append (t : Target) (before after : List Rule) :
    evaluateAll (before ++ after) t = evaluateAll before t ++ evaluateAll after t := by
  induction before with
  | nil => rfl
  | cons r rest ih => rw [List.cons_append, evaluateAll_cons, evaluateAll_cons, ih, Evaluation.append_assoc]

/-- The finding of a rule on a target, if it makes one. -/
def finding? (t : Target) (r : Rule) : Option Finding :=
  match r.evaluate t with
  | .ok found => found
  | .error _ => none

/-- The failure of a rule on a target, if it fails. -/
def failure? (t : Target) (r : Rule) : Option RuleFailure :=
  match r.evaluate t with
  | .ok _ => none
  | .error e =>
    some { ruleId := r.id, resourceType := t.resourceType, resourceName := t.name, message := e.message }

theorem outcome_eq (t : Target) (r : Rule) :
    r.outcome t = ⟨(r.finding? t).toList, (r.failure? t).toList⟩ := by
  unfold outcome finding? failure?
  cases r.evaluate t with
  | ok found => cases found <;> rfl
  | error e => rfl

theorem evaluateAll_eq (rules : List Rule) (t : Target) :
    evaluateAll rules t =
      ⟨(rules.filter (fun r => r.info.appliesTo t.resourceType)).filterMap (finding? t),
        (rules.filter (fun r => r.info.appliesTo t.resourceType)).filterMap (failure? t)⟩ := by
  unfold evaluateAll
  generalize rules.filter (fun r => r.info.appliesTo t.resourceType) = applicable
  rw [foldl_record, Evaluation.empty_append]
  induction applicable with
  | nil => rfl
  | cons r rest ih =>
    have first : Evaluation.concat ((r :: rest).map (outcome t)) =
        r.outcome t ++ .concat (rest.map (outcome t)) := rfl
    rw [first, ih, outcome_eq]
    cases found : r.finding? t <;> cases failed : r.failure? t <;>
      simp only [List.filterMap_cons, found, failed] <;> rfl

section
variable {t : Target} {r : Rule} {rules : List Rule}

theorem finding?_eq_some_iff {f : Finding} : r.finding? t = some f ↔ r.evaluate t = .ok (some f) := by
  unfold finding?
  cases r.evaluate t <;> simp

theorem failure?_eq_some_iff {g : RuleFailure} :
    r.failure? t = some g ↔ ∃ e, r.evaluate t = .error e ∧ g = r.failure t e := by
  unfold failure? failure
  cases r.evaluate t <;> simp [eq_comm]

theorem mem_findings_evaluateAll {f : Finding} :
    f ∈ (evaluateAll rules t).findings ↔
      ∃ r ∈ rules, r.info.appliesTo t.resourceType = true ∧ r.evaluate t = .ok (some f) := by
  simp only [evaluateAll_eq, List.mem_filterMap, List.mem_filter, finding?_eq_some_iff, and_assoc]

theorem mem_failures_evaluateAll {g : RuleFailure} :
    g ∈ (evaluateAll rules t).failures ↔
      ∃ r ∈ rules, r.info.appliesTo t.resourceType = true ∧ ∃ e, r.evaluate t = .error e ∧ g = r.failure t e := by
  simp only [evaluateAll_eq, List.mem_filterMap, List.mem_filter, failure?_eq_some_iff, and_assoc]

end

end Rule

/-- The filter of the rules that apply to a type. -/
def RuleFilter.ofType (resourceType : String) : RuleFilter :=
  { RuleFilter.all with resourceType := some resourceType }

namespace RuleEngine

/-! ### Several targets -/

theorem foldl_evaluate (e : RuleEngine) (sofar : Evaluation) (ts : List Target) :
    ts.foldl (fun sofar t => sofar ++ e.evaluate t) sofar = sofar ++ e.evaluateMany ts := by
  unfold evaluateMany
  induction ts generalizing sofar with
  | nil => exact (Evaluation.append_empty sofar).symm
  | cons t rest ih =>
    rw [List.foldl_cons, List.foldl_cons, ih, ih (.empty ++ e.evaluate t), Evaluation.empty_append,
      Evaluation.append_assoc]

theorem evaluateMany_append (e : RuleEngine) (xs ys : List Target) :
    e.evaluateMany (xs ++ ys) = e.evaluateMany xs ++ e.evaluateMany ys := by
  rw [evaluateMany, List.foldl_append, foldl_evaluate]
  rfl

/-! ### One rule among others -/

theorem registrable_of_mem_registrations {calls : List Call} {r : Rule}
    (member : r ∈ registrations calls) : r.Registrable := by
  obtain ⟨c, _, registered⟩ := List.mem_flatMap.mp member
  cases c with
  | register s =>
    by_cases ok : s.Registrable
    · rw [Call.registers, if_pos ok, List.mem_singleton] at registered
      exact registered ▸ ok
    · rw [Call.registers, if_neg ok] at registered
      exact absurd registered List.not_mem_nil
  | registerAll rs =>
    have ok := List.mem_takeWhile_imp registered
    exact of_decide_eq_true ok

theorem list_all_run (calls : List Call) : (run calls).list .all = standing (registrations calls) := by
  rw [list_all, (inStep_run calls).slots]

theorem ids_list_nodup (calls : List Call) : (((run calls).list .all).map Rule.id).Nodup := by
  rw [list_all_run, map_id_standing]
  exact firstIds_nodup _

theorem mem_of_mem_standing {log : List Rule} {r : Rule} (member : r ∈ standing log) : r ∈ log := by
  obtain ⟨id, _, found⟩ := List.mem_filterMap.mp member
  exact mem_of_latest? found

/-- A log without repeated ids is what it leaves behind. -/
theorem standing_eq_self {log : List Rule} (distinct : (log.map Rule.id).Nodup) : standing log = log := by
  induction log using List.reverseRecOn with
  | nil => rfl
  | append_singleton log r ih =>
    rw [List.map_append, List.nodup_append] at distinct
    obtain ⟨before, _, apart⟩ := distinct
    have new : r.id ∉ log.map Rule.id := fun member => apart _ member _ List.mem_cons_self rfl
    rw [standing_concat_new new, ih before]

/-- A rule that takes the id of another one stands in its place. -/
theorem list_all_register {calls : List Call} {before after : List Rule} {r s : Rule}
    (slots : (run calls).list .all = before ++ r :: after) (same : s.id = r.id) (ok : s.Registrable) :
    ((run calls).register s).1.list .all = before ++ s :: after := by
  have place : (firstIds (registrations calls))[before.length]? = some s.id := by
    rw [← map_id_standing, ← list_all_run, slots, same]
    simp
  have step := (inStep_run calls).insert s
  rw [register_of_registrable _ ok, list_all, step.slots, standing_concat_known place, ← list_all_run,
    slots, List.set_append_right _ _ (Nat.le_refl _), Nat.sub_self, List.set_cons_zero]

/-- Rules that can be registered and have ids of their own stand as they are given. -/
theorem list_all_registerAll {rs : List Rule} (valid : ∀ r ∈ rs, r.Registrable)
    (distinct : (rs.map Rule.id).Nodup) : (RuleEngine.empty.registerAll rs).1.list .all = rs := by
  have all : registrations [.registerAll rs] = rs := by
    simp only [registrations, List.flatMap_cons, List.flatMap_nil, List.append_nil, Call.registers]
    exact List.takeWhile_eq_self_iff.mpr (fun r member => decide_eq_true (valid r member))
  have listed : (run [.registerAll rs]).list .all = standing (registrations [.registerAll rs]) :=
    list_all_run [.registerAll rs]
  rw [all, standing_eq_self distinct] at listed
  exact listed

/-- The other rules of an engine can be registered without one of them. -/
theorem list_all_run_without {calls : List Call} {before after : List Rule} {r : Rule}
    (slots : (run calls).list .all = before ++ r :: after) :
    (run [.registerAll (before ++ after)]).list .all = before ++ after := by
  have kept : (before ++ after).Sublist (before ++ r :: after) :=
    (List.Sublist.refl before).append (List.sublist_cons_self r after)
  apply list_all_registerAll
  · intro s member
    apply @registrable_of_mem_registrations calls
    apply mem_of_mem_standing
    rw [← list_all_run, slots]
    exact kept.subset member
  · apply (kept.map Rule.id).nodup
    rw [← slots]
    exact ids_list_nodup calls

theorem evaluate_eq (e : RuleEngine) (t : Target) : e.evaluate t = Rule.evaluateAll (e.list .all) t := by
  rw [list_all]
  rfl

/-- The evaluation of one rule among others. -/
theorem evaluate_of_slots {e : RuleEngine} {before after : List Rule} {r : Rule}
    (slots : e.list .all = before ++ r :: after) (t : Target) :
    e.evaluate t = Rule.evaluateAll before t ++ r.contribution t ++ Rule.evaluateAll after t := by
  rw [evaluate_eq, slots, Rule.evaluateAll_append, Rule.evaluateAll_cons, Evaluation.append_assoc]

/-- A rule that fails where it stands in the place of another one adds one failure
    if it applies, and no finding. -/
theorem contribution_of_error {t : Target} {r s : Rule} {err : RuleError} (sameId : s.id = r.id)
    (sameTypes : s.info.resourceTypes = r.info.resourceTypes) (fails : s.evaluate t = .error err) :
    s.contribution t =
      ⟨[], if t.resourceType ∈ r.info.resourceTypes then
        [⟨r.id, t.resourceType, t.name, err.message⟩] else []⟩ := by
  rw [Rule.contribution, Rule.outcome, fails, RuleInfo.appliesTo, sameTypes]
  by_cases applies : t.resourceType ∈ r.info.resourceTypes
  · rw [if_pos (List.contains_iff_mem.mpr applies), if_pos applies, ← sameId]
    rfl
  · rw [if_neg (mt List.contains_iff_mem.mp applies), if_neg applies]
    rfl

theorem list_ofType (e : RuleEngine) (resourceType : String) :
    e.list (.ofType resourceType) = (e.list .all).filter (fun r => r.info.appliesTo resourceType) := by
  rw [list_all]
  apply List.filter_congr
  intro r _
  simp [RuleFilter.accepts, RuleFilter.ofType, RuleFilter.all]

/-- An engine evaluates a target by one outcome of each rule that applies to its
    type, in the order of the slots. Where a rule is made to fail or is left out,
    the others report what they did; and targets are evaluated one by one. -/
theorem evaluate_run_isolated (calls : List Call) (t : Target) :
    ((run calls).evaluate t).findings =
      ((run calls).list (.ofType t.resourceType)).filterMap (Rule.finding? t) ∧
    ((run calls).evaluate t).failures =
      ((run calls).list (.ofType t.resourceType)).filterMap (Rule.failure? t) ∧
    (∀ before r after, (run calls).list .all = before ++ r :: after →
      (run calls).evaluate t =
        Rule.evaluateAll before t ++ r.contribution t ++ Rule.evaluateAll after t ∧
      -- Another rule of the same id and types fails in the place of `r`.
      (∀ s err, s.id = r.id → s.info.resourceTypes = r.info.resourceTypes → s.evaluate t = .error err →
        ((run calls).register s).2 = none ∧
        ((run calls).register s).1.evaluate t =
          Rule.evaluateAll before t ++
            ⟨[], if t.resourceType ∈ r.info.resourceTypes then
              [⟨r.id, t.resourceType, t.name, err.message⟩] else []⟩ ++
            Rule.evaluateAll after t) ∧
      -- There are engines without `r`, and all of them report this.
      (∃ others, (run others).list .all = before ++ after) ∧
      (∀ others, (run others).list .all = before ++ after →
        (run others).evaluate t = Rule.evaluateAll before t ++ Rule.evaluateAll after t)) ∧
    (∀ xs ys, (run calls).evaluateMany (xs ++ ys) =
      (run calls).evaluateMany xs ++ (run calls).evaluateMany ys) ∧
    (run calls).evaluateMany [] = .empty ∧
    (run calls).evaluateMany [t] = (run calls).evaluate t := by
  refine ⟨?_, ?_, fun before r after slots => ⟨evaluate_of_slots slots t, ?_, ?_, ?_⟩,
    evaluateMany_append _, rfl, Evaluation.empty_append _⟩
  · rw [list_ofType, evaluate_eq, Rule.evaluateAll_eq]
  · rw [list_ofType, evaluate_eq, Rule.evaluateAll_eq]
  · intro s err sameId sameTypes fails
    have member : r ∈ standing (registrations calls) := by
      rw [← list_all_run, slots]
      exact List.mem_append_right _ List.mem_cons_self
    obtain ⟨named, typed⟩ := registrable_of_mem_registrations (mem_of_mem_standing member)
    have ok : s.Registrable := by
      rw [Rule.Registrable, sameId, sameTypes]
      exact ⟨named, typed⟩
    refine ⟨by rw [register_of_registrable _ ok], ?_⟩
    rw [evaluate_of_slots (list_all_register slots sameId ok) t,
      contribution_of_error sameId sameTypes fails]
  · exact ⟨_, list_all_run_without slots⟩
  · intro others remaining
    rw [evaluate_eq, remaining, Rule.evaluateAll_append]

end RuleEngine

end InfraAudit
