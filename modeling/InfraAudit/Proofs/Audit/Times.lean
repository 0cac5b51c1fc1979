import InfraAudit.Proofs.Audit.Files
import InfraAudit.Proofs.Audit.Risks
import InfraAudit.Proofs.Value.Order

/-!
What audits carry besides what they found: the report on themselves in Markdown
(`evidence_of_explainPlan`, `report_of_validateManifests`) and the time at which they were
made. An audit made at another time is the same but for this time (`explainPlan_madeAt`,
`validateManifests_madeAt`), which reports do not show and which stands under a key of its
own in the value of the audit.
-/
namespace InfraAudit

variable {fs : FileSystem} {c : Config} {now : String}

/-! ### Audits of plans -/

namespace PlanAudit

/-- An audit as it is made at another time. -/
def madeAt (now : String) (a : PlanAudit) : PlanAudit := { a with analyzedAt := now }

@[simp]
theorem view_madeAt (now : String) (a : PlanAudit) : (a.madeAt now).view = a.view := a.view_with ..

theorem encode_madeAt_without (now : String) (a : PlanAudit) :
    (a.madeAt now).encode.without "analyzedAt" = a.encode.without "analyzedAt" := by
  simp only [encode, madeAt, Value.without, List.filter_append]
  rfl

end PlanAudit

theorem evidence_of_explainPlan {r : PlanRequest} {a : PlanAudit} (made : explainPlan fs c now r = .ok a) :
    a.evidence = Report.Markdown.render a.view := by
  obtain ⟨text, p, run, _, _, _, rfl⟩ := (explainPlan_eq_ok_iff ..).mp made
  exact PlanAudit.evidence_withReport _

/-- The time has no part in what the audit of a plan finds, nor in whether it is made. -/
theorem explainPlan_madeAt (fs : FileSystem) (c : Config) (now now' : String) (r : PlanRequest) :
    explainPlan fs c now' r = (explainPlan fs c now r).map (PlanAudit.madeAt now') := by
  simp only [explainPlan, bind, Except.bind]
  cases (fs.readText r.planFile).mapError AuditError.file with
  | error e => rfl
  | ok text =>
    dsimp only
    cases (Plan.parse text).mapError AuditError.plan with
    | error e => rfl
    | ok p => cases c.policyRun r.policySet <;> rfl

/-! ### Audits of manifests -/

namespace ClusterAudit

/-- An audit as it is made at another time. -/
def madeAt (now : String) (a : ClusterAudit) : ClusterAudit := { a with analyzedAt := now }

@[simp]
theorem view_madeAt (now : String) (a : ClusterAudit) : (a.madeAt now).view = a.view := a.view_with ..

theorem encode_madeAt_without (now : String) (a : ClusterAudit) :
    (a.madeAt now).encode.without "analyzedAt" = a.encode.without "analyzedAt" := by
  simp only [encode, madeAt, Value.without, List.filter_append]
  rfl

end ClusterAudit

theorem report_of_validateManifests {r : ClusterRequest} {a : ClusterAudit}
    (made : validateManifests fs c now r = .ok a) : a.report = Report.Markdown.render a.view := by
  obtain ⟨_, run, _, _, reported, _⟩ := (validateManifests_eq_ok_iff_joins ..).mp made
  exact reported

/-- The time has no part in what the audit of manifests finds, nor in whether it is made. -/
theorem validateManifests_madeAt (fs : FileSystem) (c : Config) (now now' : String) (r : ClusterRequest) :
    validateManifests fs c now' r = (validateManifests fs c now r).map (ClusterAudit.madeAt now') := by
  simp only [validateManifests, bind, Except.bind]
  cases r.roots.forM fs.requireDirectory with
  | error e => rfl
  | ok _ =>
    dsimp only
    cases r.roots.isEmpty with
    | true => rfl
    | false => cases c.policyRun r.policySet <;> rfl

end InfraAudit
