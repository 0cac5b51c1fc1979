import InfraAudit.Proofs.Rule.Evaluation
import InfraAudit.Rule.Builtin

/-!
What the built-in rules report. Every finding of a built-in rule names the target it is
about and carries the id, the references and the severity that the rule gives it
(`attributedTo_of_mem_builtin`), and the built-in rules can all be registered, each under
an id of its own, so that an engine takes any selection of them as it is
(`registerAll_builtin`).
-/
namespace InfraAudit

/-- Steps one after another succeed when each does. -/
theorem bind_eq_ok_iff {ε α β : Type} (x : Except ε α) (next : α → Except ε β) (b : β) :
    (x >>= next) = .ok b ↔ ∃ a, x = .ok a ∧ next a = .ok b := by
  cases x with
  | error e => exact iff_of_false (by rintro ⟨⟩) (by rintro ⟨a, ⟨⟩, _⟩)
  | ok a =>
    constructor
    · intro made
      exact ⟨a, rfl, made⟩
    · rintro ⟨_, ⟨⟩, made⟩
      exact made

/-- A finding that is about a target and carries the id of a rule. -/
structure Finding.IsOf (f : Finding) (i : RuleInfo) (t : Target) : Prop where
  ruleId : f.ruleId = i.id
  resource : f.resource = some t.ref

theorem RuleInfo.isOf_finding (i : RuleInfo) (t : Target) (description recommendation : String) :
    (i.finding t description recommendation).IsOf i t :=
  ⟨rfl, rfl⟩

theorem Finding.IsOf.withEvidence {f : Finding} {i : RuleInfo} {t : Target} (own : f.IsOf i t)
    (evidence : String) : (f.withEvidence evidence).IsOf i t :=
  ⟨own.ruleId, own.resource⟩

theorem Finding.IsOf.withSeverity {f : Finding} {i : RuleInfo} {t : Target} (own : f.IsOf i t)
    (severity : Severity) : (f.withSeverity severity).IsOf i t :=
  ⟨own.ruleId, own.resource⟩

/-- The severity that a rule gives to its findings: its own, but for traffic that may leave
    everywhere, which is reported one level below. -/
def RuleInfo.reportedSeverity (i : RuleInfo) : Severity :=
  if i.id = "network-open-egress" then .high else i.severity

/-- A finding that is about a target and carries what the rule that makes it declares. -/
structure Finding.AttributedTo (f : Finding) (i : RuleInfo) (t : Target) : Prop extends f.IsOf i t where
  references : f.references = i.references
  severity : f.severity = i.reportedSeverity

theorem RuleInfo.attributedTo_finding {i : RuleInfo} (other : i.id ≠ "network-open-egress") (t : Target)
    (description recommendation evidence : String) :
    ((i.finding t description recommendation).withEvidence evidence).AttributedTo i t where
  toIsOf := (i.isOf_finding t description recommendation).withEvidence evidence
  references := rfl
  severity := (if_neg other).symm

namespace Rule

/-- Whatever a rule finds, it reports under its own id and about its target. -/
def Attributes (r : Rule) : Prop := ∀ t f, r.evaluate t = .ok (some f) → f.IsOf r.info t

/-! ### Rule families -/

section
variable {t : Target} {f : Finding}

namespace Storage

theorem attributedTo_publicAccess (found : publicAccess.evaluate t = .ok (some f)) :
    f.AttributedTo publicAccessInfo t := by
  obtain ⟨acl, _, rfl⟩ := Option.map_eq_some_iff.mp (Except.ok.inj found)
  exact RuleInfo.attributedTo_finding (by decide) t _ _ _

theorem attributedTo_noEncryption (found : noEncryption.evaluate t = .ok (some f)) :
    f.AttributedTo noEncryptionInfo t := by
  have made := Except.ok.inj found
  by_cases unencrypted : isUnencrypted t.resource = true
  · rw [if_pos unencrypted] at made
    cases made
    exact RuleInfo.attributedTo_finding (by decide) t _ _ _
  · rw [if_neg unencrypted] at made
    cases made

theorem attributedTo_noVersioning (found : noVersioning.evaluate t = .ok (some f)) :
    f.AttributedTo noVersioningInfo t := by
  obtain ⟨gap, _, rfl⟩ := Option.map_eq_some_iff.mp (Except.ok.inj found)
  exact RuleInfo.attributedTo_finding (by decide) t _ _ _

end Storage

namespace Network

/-- The rules about entries report the evidence that a probe finds in one of them. -/
theorem exists_evidence_of_probe {d : Direction} {probe : Value → Except RuleError (Option String)}
    {report : String → Finding}
    (found : (do let evidence ← firstOf probe (← entries t d); return evidence.map report) = .ok (some f)) :
    ∃ evidence, report evidence = f := by
  obtain ⟨items, _, probed⟩ := (bind_eq_ok_iff _ _ _).mp found
  obtain ⟨evidence, _, reported⟩ := (bind_eq_ok_iff _ _ _).mp probed
  obtain ⟨text, _, made⟩ := Option.map_eq_some_iff.mp (Except.ok.inj reported)
  exact ⟨text, made⟩

theorem attributedTo_openIngress (found : openIngress.evaluate t = .ok (some f)) :
    f.AttributedTo openIngressInfo t := by
  obtain ⟨evidence, rfl⟩ := exists_evidence_of_probe found
  exact RuleInfo.attributedTo_finding (by decide) t _ _ _

theorem attributedTo_openEgress (found : openEgress.evaluate t = .ok (some f)) :
    f.AttributedTo openEgressInfo t := by
  obtain ⟨evidence, rfl⟩ := exists_evidence_of_probe found
  exact ⟨((openEgressInfo.isOf_finding t _ _).withSeverity _).withEvidence _, rfl, rfl⟩

theorem attributedTo_sshOpen (found : sshOpen.evaluate t = .ok (some f)) : f.AttributedTo sshOpenInfo t := by
  obtain ⟨evidence, rfl⟩ := exists_evidence_of_probe found
  exact RuleInfo.attributedTo_finding (by decide) t _ _ _

end Network

namespace Workload

open Cluster (Container)

section
variable {i : RuleInfo} {description recommendation label : String} {offends : Container → Bool}

/-- A report names the containers that offend, and says nothing else of them. -/
theorem exists_evidence_of_report {containers : List Container}
    (found : report i t description recommendation label offends containers = some f) :
    ∃ evidence, f = (i.finding t description recommendation).withEvidence evidence := by
  simp only [report] at found
  split at found
  · cases found
  · cases found
    exact ⟨_, rfl⟩

theorem isOf_of_report {containers : List Container}
    (found : report i t description recommendation label offends containers = some f) : f.IsOf i t := by
  obtain ⟨evidence, rfl⟩ := exists_evidence_of_report found
  exact (i.isOf_finding t _ _).withEvidence _

/-- The rules about containers report what they find in them. -/
theorem attributedTo_of_containers (other : i.id ≠ "network-open-egress")
    (found : (do
      let containers ← Cluster.containers t.resource
      return report i t description recommendation label offends containers) = .ok (some f)) :
    f.AttributedTo i t := by
  obtain ⟨containers, _, reported⟩ := (bind_eq_ok_iff _ _ _).mp found
  obtain ⟨evidence, rfl⟩ := exists_evidence_of_report (Except.ok.inj reported)
  exact RuleInfo.attributedTo_finding other t _ _ _

end

theorem attributedTo_noLimits (found : noLimits.evaluate t = .ok (some f)) : f.AttributedTo noLimitsInfo t :=
  attributedTo_of_containers (by decide) found

theorem attributedTo_privilegeEscalation (found : privilegeEscalation.evaluate t = .ok (some f)) :
    f.AttributedTo privilegeEscalationInfo t :=
  attributedTo_of_containers (by decide) found

theorem attributedTo_runAsRoot (found : runAsRoot.evaluate t = .ok (some f)) : f.AttributedTo runAsRootInfo t := by
  obtain ⟨containers, _, secured⟩ := (bind_eq_ok_iff _ _ _).mp found
  obtain ⟨pod, _, reported⟩ := (bind_eq_ok_iff _ _ _).mp secured
  obtain ⟨evidence, rfl⟩ := exists_evidence_of_report (Except.ok.inj reported)
  exact RuleInfo.attributedTo_finding (by decide) t _ _ _

theorem attributedTo_latestTag (found : latestTag.evaluate t = .ok (some f)) : f.AttributedTo latestTagInfo t :=
  attributedTo_of_containers (by decide) found

end Workload

/-! ### All of them -/

/-- Whatever a built-in rule finds is about its target and carries what the rule declares. -/
theorem attributedTo_of_mem_builtin {r : Rule} (member : r ∈ builtin) (found : r.evaluate t = .ok (some f)) :
    f.AttributedTo r.info t := by
  simp only [builtin, List.mem_cons, List.not_mem_nil, or_false] at member
  rcases member with rfl | rfl | rfl | rfl | rfl | rfl | rfl | rfl | rfl | rfl
  · exact Storage.attributedTo_publicAccess found
  · exact Storage.attributedTo_noEncryption found
  · exact Storage.attributedTo_noVersioning found
  · exact Network.attributedTo_openIngress found
  · exact Network.attributedTo_openEgress found
  · exact Network.attributedTo_sshOpen found
  · exact Workload.attributedTo_noLimits found
  · exact Workload.attributedTo_privilegeEscalation found
  · exact Workload.attributedTo_runAsRoot found
  · exact Workload.attributedTo_latestTag found

end

theorem attributes_of_mem_builtin {r : Rule} (member : r ∈ builtin) : r.Attributes := fun _ _ found =>
  (attributedTo_of_mem_builtin member found).toIsOf

theorem registrable_of_mem_builtin : ∀ r ∈ builtin, r.Registrable := by
  have none : ∀ r ∈ builtin, RuleEngine.refusal? r = none := by decide +kernel
  exact fun r member => (RuleEngine.refusal?_eq_none_iff r).mp (none r member)

theorem ids_builtin_nodup : (builtin.map Rule.id).Nodup := by decide +kernel

end Rule

/-- An engine takes a selection of the built-in rules as it is. -/
theorem RuleEngine.registerAll_builtin {rs : List Rule} (selected : rs.Sublist Rule.builtin) :
    (RuleEngine.empty.registerAll rs).2 = none ∧ (RuleEngine.empty.registerAll rs).1.list .all = rs := by
  have valid : ∀ r ∈ rs, r.Registrable := fun r member =>
    Rule.registrable_of_mem_builtin r (selected.subset member)
  have distinct : (rs.map Rule.id).Nodup := (selected.map Rule.id).nodup Rule.ids_builtin_nodup
  exact ⟨(registerAll_snd _ rs).mpr valid, list_all_registerAll valid distinct⟩

end InfraAudit
