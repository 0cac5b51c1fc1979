import InfraAudit.Proofs.Policy.Selection
import InfraAudit.Proofs.Rule.Attribution

/-!
What a policy reports on a target. All findings carry the path of the target
(`PolicyRun.path_of_mem`) and come from different rules (`PolicyRun.ruleIds_nodup`), and
those of several targets are those of each, one after another (`findings_evaluate`).
-/
namespace InfraAudit

/-- The path of the resource that a finding is about. -/
def Finding.path? (f : Finding) : Option String := f.resource.bind ResourceRef.path

/-! ### What the rules find on a target -/

namespace Rule

theorem path_of_mem_evaluateAll {rules : List Rule} (own : ∀ r ∈ rules, r.Attributes) {t : Target} {f : Finding}
    (member : f ∈ (evaluateAll rules t).findings) : f.path? = t.path := by
  obtain ⟨r, known, _, made⟩ := mem_findings_evaluateAll.mp member
  rw [Finding.path?, (own r known t f made).resource]
  rfl

end Rule

theorem RuleEngine.findings_evaluateMany (e : RuleEngine) (ts : List Target) :
    (e.evaluateMany ts).findings = ts.flatMap (fun t => (e.evaluate t).findings) := by
  induction ts with
  | nil => rfl
  | cons t rest ih => rw [evaluateMany_cons, Evaluation.findings_append, ih, List.flatMap_cons]

theorem Policy.list_engine {p : Policy} {e : RuleEngine} (made : p.engine = .ok e) : e.list .all = p.keptRules := by
  obtain ⟨e', made', slots⟩ := p.exists_engine
  rw [made] at made'
  cases made'
  exact slots

theorem Policy.attributes_of_mem_keptRules {p : Policy} : ∀ r ∈ p.keptRules, r.Attributes := fun _ member =>
  Rule.attributes_of_mem_builtin (List.mem_of_mem_filter member)

theorem Config.policyRun_eq_ok_iff (c : Config) (name : Option String) (run : PolicyRun) :
    c.policyRun name = .ok run ↔ c.policy? name = some run.policy ∧ run.policy.engine = .ok run.engine := by
  unfold policyRun
  cases known : c.policy? name with
  | none => exact iff_of_false (by rintro ⟨⟩) (by rintro ⟨⟨⟩, _⟩)
  | some policy =>
    obtain ⟨e, made, _⟩ := policy.exists_engine
    simp only [made]
    constructor
    · rintro ⟨⟩
      exact ⟨rfl, made⟩
    · rintro ⟨same, made'⟩
      cases same
      rw [made] at made'
      cases run
      cases made'
      rfl

namespace PolicyRun

/-- The findings on a target that a policy reports. -/
def report (run : PolicyRun) (t : Target) : List Finding :=
  (run.engine.evaluate t).findings.filter run.policy.allowsFinding

theorem findings_evaluate (run : PolicyRun) (ts : List Target) :
    (run.evaluate ts).findings = ts.flatMap run.report := by
  rw [evaluate, Policy.report, RuleEngine.findings_evaluateMany, List.filter_flatMap]
  rfl

variable {run : PolicyRun}

theorem path_of_mem (made : run.policy.engine = .ok run.engine) {t : Target} {f : Finding}
    (member : f ∈ run.report t) : f.path? = t.path := by
  have found := List.mem_of_mem_filter member
  rw [RuleEngine.evaluate_eq, Policy.list_engine made] at found
  exact Rule.path_of_mem_evaluateAll Policy.attributes_of_mem_keptRules found

theorem ruleIds_nodup (made : run.policy.engine = .ok run.engine) (t : Target) :
    ((run.report t).map Finding.ruleId).Nodup := by
  have distinct : (run.policy.keptRules.map Rule.id).Nodup :=
    (List.filter_sublist.map _).nodup Rule.ids_builtin_nodup
  have told : (run.engine.evaluate t).ruleIds.Nodup := by
    rw [RuleEngine.evaluate_eq, Policy.list_engine made]
    exact Rule.ruleIds_evaluateAll_nodup Policy.attributes_of_mem_keptRules distinct t
  exact (List.filter_sublist.map _).nodup ((List.sublist_append_left _ _).nodup told)

end PolicyRun

end InfraAudit
