import InfraAudit.Proofs.Cluster.Containers
import InfraAudit.Proofs.Rule.Exposure
import Mathlib.Data.List.Perm.Subperm

/-!
To which rules the outcomes of an engine belong. The built-in rules fail for no other
reason than a malformed resource, and those about storage not at all
(`Rule.failure_of_mem_builtin`, `Rule.Storage.exists_outcome`). A rule adds one finding or
one failure to an evaluation or nothing, each under its own id, so that no id is there
twice (`Rule.ruleIds_evaluateAll_nodup`).
-/
namespace InfraAudit

/-- The ids of the rules that an evaluation tells of. -/
def Evaluation.ruleIds (e : Evaluation) : List String :=
  e.findings.map Finding.ruleId ++ e.failures.map RuleFailure.ruleId

/-! ### Malformed resources -/

/-- A step fails for no other reason than a malformed resource. -/
def FailsOnMalformed {α : Type} (x : Except RuleError α) : Prop :=
  ∀ e, x = .error e → ∃ field reason, e = .malformed field reason

section
variable {α β : Type}

theorem failsOnMalformed_ok (a : α) : FailsOnMalformed (.ok a) := nofun

theorem failsOnMalformed_malformed (field reason : String) :
    FailsOnMalformed (.error (.malformed field reason) : Except RuleError α) := by
  rintro _ ⟨⟩
  exact ⟨field, reason, rfl⟩

theorem FailsOnMalformed.bind {x : Except RuleError α} {next : α → Except RuleError β} (first : FailsOnMalformed x)
    (later : ∀ a, FailsOnMalformed (next a)) : FailsOnMalformed (x >>= next) := by
  cases x with
  | error e => exact fun _ failed => first _ (congrArg Except.error (Except.error.inj failed))
  | ok a => exact later a

end

namespace Cluster

theorem failsOnMalformed_specOf (document : Value) : FailsOnMalformed (specOf document) := by
  unfold specOf
  split
  · exact failsOnMalformed_ok _
  · exact failsOnMalformed_ok _
  · exact failsOnMalformed_ok _
  · exact failsOnMalformed_malformed _ _

theorem PodSpec.failsOnMalformed_containers (pod : PodSpec) : FailsOnMalformed pod.containers := by
  unfold containers
  dsimp only
  split
  · exact failsOnMalformed_ok _
  · exact failsOnMalformed_ok _
  · intro e refused
    obtain ⟨before, _, _, reason, _, _, _, rfl⟩ := decodeContainers_error refused
    exact ⟨_, reason, rfl⟩
  · exact failsOnMalformed_malformed _ _

theorem PodSpec.failsOnMalformed_securityContext (pod : PodSpec) : FailsOnMalformed pod.securityContext := by
  unfold securityContext
  split
  · exact failsOnMalformed_ok _
  · exact failsOnMalformed_ok _
  · split
    · exact failsOnMalformed_ok _
    · exact failsOnMalformed_malformed _ _

theorem failsOnMalformed_containers (document : Value) : FailsOnMalformed (containers document) := by
  refine (failsOnMalformed_specOf document).bind fun spec => ?_
  unfold containersOf
  split
  · exact failsOnMalformed_ok _
  · exact PodSpec.failsOnMalformed_containers _

theorem failsOnMalformed_podSecurityContext (document : Value) : FailsOnMalformed (podSecurityContext document) := by
  refine (failsOnMalformed_specOf document).bind fun spec => ?_
  unfold podSecurityContextOf
  split
  · exact failsOnMalformed_ok _
  · exact PodSpec.failsOnMalformed_securityContext _

end Cluster

namespace Rule

/-! ### Families of rules -/

/-- The rules about buckets. -/
def Storage.rules : List Rule := [publicAccess, noEncryption, noVersioning]

/-- The rules about security groups. -/
def Network.rules : List Rule := [openIngress, openEgress, sshOpen]

/-- The rules about containers. -/
def Workload.rules : List Rule := [noLimits, privilegeEscalation, runAsRoot, latestTag]

theorem builtin_eq : builtin = Storage.rules ++ Network.rules ++ Workload.rules := rfl

/-- A rule about buckets never fails. -/
theorem Storage.exists_outcome {r : Rule} (member : r ∈ rules) (t : Target) : ∃ found, r.evaluate t = .ok found := by
  simp only [rules, List.mem_cons, List.not_mem_nil, or_false] at member
  rcases member with rfl | rfl | rfl
  · exact ⟨_, rfl⟩
  · exact ⟨_, rfl⟩
  · exact ⟨_, rfl⟩

theorem Network.failsOnMalformed_rule (x : Exposure) (t : Target) : FailsOnMalformed (x.rule.evaluate t) := by
  intro e failed
  obtain ⟨report, reports, _⟩ := x.exists_reports t
  rcases reports.eq_error_iff.mp failed with unlisted | ⟨items, _, scanned⟩
  · exact ⟨_, _, (entries_eq_error_iff.mp unlisted).2⟩
  · obtain ⟨entry, first, given⟩ := (Exposure.firstOf_probe_eq_iff (by simp)).mp scanned
    obtain ⟨_, ⟨_, _, _, rfl⟩ | ⟨_, _, _, _, rfl⟩⟩ := (Exposure.probe_eq_error_iff first.holds).mp given
    · exact ⟨_, _, rfl⟩
    · exact ⟨_, _, rfl⟩

theorem Network.failsOnMalformed_of_mem {r : Rule} (member : r ∈ rules) (t : Target) :
    FailsOnMalformed (r.evaluate t) := by
  simp only [rules, List.mem_cons, List.not_mem_nil, or_false] at member
  rcases member with rfl | rfl | rfl
  · exact failsOnMalformed_rule .ports t
  · exact failsOnMalformed_rule .traffic t
  · exact failsOnMalformed_rule .shell t

theorem Workload.failsOnMalformed_of_mem {r : Rule} (member : r ∈ rules) (t : Target) :
    FailsOnMalformed (r.evaluate t) := by
  have containers := Cluster.failsOnMalformed_containers t.resource
  have pod := Cluster.failsOnMalformed_podSecurityContext t.resource
  simp only [rules, List.mem_cons, List.not_mem_nil, or_false] at member
  rcases member with rfl | rfl | rfl | rfl
  · exact containers.bind fun _ => failsOnMalformed_ok _
  · exact containers.bind fun _ => failsOnMalformed_ok _
  · exact containers.bind fun _ => pod.bind fun _ => failsOnMalformed_ok _
  · exact containers.bind fun _ => failsOnMalformed_ok _

/-- The rules that can fail are those about security groups and about containers, and they
    fail on malformed resources. -/
theorem failure_of_mem_builtin {r : Rule} (member : r ∈ builtin) {t : Target} {e : RuleError}
    (failed : r.evaluate t = .error e) :
    r ∈ Network.rules ++ Workload.rules ∧ ∃ field reason, e = .malformed field reason := by
  rw [builtin_eq, List.append_assoc] at member
  rcases List.mem_append.mp member with storage | other
  · obtain ⟨found, said⟩ := Storage.exists_outcome storage t
    cases said.symm.trans failed
  · refine ⟨other, ?_⟩
    rcases List.mem_append.mp other with network | workload
    · exact Network.failsOnMalformed_of_mem network t e failed
    · exact Workload.failsOnMalformed_of_mem workload t e failed

theorem reportedSeverity_le_of_mem_builtin : ∀ r ∈ builtin, r.info.reportedSeverity ≤ r.info.severity := by
  decide +kernel

/-! ### What a rule adds -/

section
variable {t : Target} {r : Rule}

/-- A rule adds a finding or a failure, or nothing, but not both. -/
theorem length_contribution_le (t : Target) (r : Rule) :
    (r.contribution t).findings.length + (r.contribution t).failures.length ≤ 1 := by
  unfold contribution outcome
  split
  · split
    · exact Nat.le_refl 1
    · exact Nat.zero_le 1
    · exact Nat.le_refl 1
  · exact Nat.zero_le 1

theorem ruleIds_contribution_sublist (own : r.Attributes) : (r.contribution t).ruleIds.Sublist [r.id] := by
  unfold contribution outcome
  split
  · split
    next f found =>
      have same : f.ruleId = r.id := (own t f found).ruleId
      exact same ▸ List.Sublist.refl [f.ruleId]
    next => exact List.nil_sublist _
    next => exact List.Sublist.refl [r.id]
  · exact List.nil_sublist _

end

theorem perm_ruleIds_append (a b : Evaluation) : (a ++ b).ruleIds.Perm (a.ruleIds ++ b.ruleIds) := by
  simp only [Evaluation.ruleIds, Evaluation.findings_append, Evaluation.failures_append, List.map_append,
    List.append_assoc]
  exact (List.perm_append_comm_assoc ..).append_left _

/-- An evaluation tells of every rule at most once. -/
theorem ruleIds_evaluateAll_subperm {rules : List Rule} (own : ∀ r ∈ rules, r.Attributes) (t : Target) :
    (evaluateAll rules t).ruleIds.Subperm (rules.map Rule.id) := by
  induction rules with
  | nil => exact List.nil_subperm
  | cons r rest ih =>
    obtain ⟨first, later⟩ := List.forall_mem_cons.mp own
    rw [evaluateAll_cons, List.map_cons]
    exact (perm_ruleIds_append _ _).subperm.trans
      ((ruleIds_contribution_sublist first).subperm.append (ih later))

theorem ruleIds_evaluateAll_nodup {rules : List Rule} (own : ∀ r ∈ rules, r.Attributes)
    (distinct : (rules.map Rule.id).Nodup) (t : Target) : (evaluateAll rules t).ruleIds.Nodup := by
  obtain ⟨ids, same, among⟩ := ruleIds_evaluateAll_subperm own t
  exact same.nodup_iff.mp (among.nodup distinct)

theorem evaluateAll_eq_concat (rules : List Rule) (t : Target) :
    evaluateAll rules t = .concat (rules.map (contribution t)) := by
  induction rules with
  | nil => rfl
  | cons r rest ih =>
    rw [evaluateAll_cons, ih]
    rfl

theorem evaluateAll_of_no_type {rules : List Rule} {t : Target}
    (untyped : ∀ r ∈ rules, t.resourceType ∉ r.info.resourceTypes) : evaluateAll rules t = .empty := by
  have none : rules.filter (fun r => r.info.appliesTo t.resourceType) = [] :=
    List.filter_eq_nil_iff.mpr fun r member applies => untyped r member (List.contains_iff_mem.mp applies)
  rw [evaluateAll, none]
  rfl

end Rule

/-! ### Engines -/

namespace RuleEngine

theorem get?_id_of_mem {calls : List Call} {r : Rule} (listed : r ∈ (run calls).list .all) :
    (run calls).get? r.id = some r := by
  rw [list_all_run] at listed
  obtain ⟨id, _, found⟩ := List.mem_filterMap.mp listed
  rw [(inStep_run calls).mirrors.get?_eq, id_of_latest? found, found]

/-- What an engine of built-in rules tells of a target, whatever its resource is, and whichever
    of the rules there are. A finding comes from a rule of the engine that applies to the type,
    and carries the id, the references and the severity of that rule, but for traffic that
    may leave, and the type, the name and the path of the target. A failure comes from such a
    rule about security groups or containers, and tells of a malformed resource. No rule is
    told of twice, and a type that no rule declares is not told of. -/
theorem evaluate_attributed (calls : List Call) (selected : ∀ r ∈ (run calls).list .all, r ∈ Rule.builtin)
    (t : Target) :
    (∀ f ∈ ((run calls).evaluate t).findings, ∃ r,
      (run calls).get? f.ruleId = some r ∧ t.resourceType ∈ r.info.resourceTypes ∧
      r.evaluate t = .ok (some f) ∧
      f.resource = some ⟨t.resourceType, t.name, t.path⟩ ∧
      f.references = r.info.references ∧
      f.severity = (if f.ruleId = "network-open-egress" then .high else r.info.severity) ∧
      f.severity ≤ r.info.severity) ∧
    (∀ g ∈ ((run calls).evaluate t).failures, ∃ r field reason,
      (run calls).get? g.ruleId = some r ∧ t.resourceType ∈ r.info.resourceTypes ∧
      r ∈ Rule.Network.rules ++ Rule.Workload.rules ∧
      r.evaluate t = .error (.malformed field reason) ∧
      g = ⟨r.id, t.resourceType, t.name, (RuleError.malformed field reason).message⟩) ∧
    (∀ r ∈ Rule.Storage.rules, ∃ found, r.evaluate t = .ok found) ∧
    -- Each rule adds at most one finding or failure, and the ids tell the rules apart.
    ((run calls).evaluate t = .concat (((run calls).list .all).map (Rule.contribution t)) ∧
      ∀ r : Rule, (r.contribution t).findings.length + (r.contribution t).failures.length ≤ 1) ∧
    ((run calls).evaluate t).ruleIds.Nodup ∧
    ((∀ r ∈ (run calls).list .all, t.resourceType ∉ r.info.resourceTypes) → (run calls).evaluate t = .empty) := by
  have own : ∀ r ∈ (run calls).list .all, r.Attributes := fun r listed =>
    Rule.attributes_of_mem_builtin (selected r listed)
  simp only [evaluate_eq]
  refine ⟨fun f member => ?_, fun g member => ?_, fun r member => Rule.Storage.exists_outcome member t,
    ⟨Rule.evaluateAll_eq_concat _ t, Rule.length_contribution_le t⟩,
    Rule.ruleIds_evaluateAll_nodup own (ids_list_nodup calls) t, Rule.evaluateAll_of_no_type⟩
  · obtain ⟨r, listed, applies, found⟩ := Rule.mem_findings_evaluateAll.mp member
    have attributed := Rule.attributedTo_of_mem_builtin (selected r listed) found
    have id : f.ruleId = r.id := attributed.ruleId
    refine ⟨r, ?_, List.contains_iff_mem.mp applies, found, attributed.resource, attributed.references, ?_, ?_⟩
    · rw [id]
      exact get?_id_of_mem listed
    · rw [id]
      exact attributed.severity
    · rw [attributed.severity]
      exact Rule.reportedSeverity_le_of_mem_builtin r (selected r listed)
  · obtain ⟨r, listed, applies, e, failed, rfl⟩ := Rule.mem_failures_evaluateAll.mp member
    obtain ⟨family, field, reason, rfl⟩ := Rule.failure_of_mem_builtin (selected r listed) failed
    exact ⟨r, field, reason, get?_id_of_mem listed, List.contains_iff_mem.mp applies, family, failed, rfl⟩

/-- A security group that lets all traffic out, and has a text for its entries of traffic that
    comes in. -/
def halfMalformedGroup : Target :=
  ⟨.object
    [("egress", .array [.object [("cidr_blocks", .array [.string "0.0.0.0/0"]), ("protocol", .string "-1")]]),
     ("ingress", .string "none")],
   "aws_security_group", "web", some "main.tf"⟩

/-- The rule about traffic that comes in fails, and the one about traffic that leaves reports
    the group one level below its own severity. -/
theorem evaluate_attributed_halfMalformedGroup :
    let e := run [.registerAll [Rule.Storage.noVersioning, Rule.Network.openIngress, Rule.Network.openEgress]]
    (∀ r ∈ e.list .all, r ∈ Rule.builtin) ∧
    ∃ f, (e.evaluate halfMalformedGroup).findings = [f] ∧ f.severity = .high ∧
      f.resource = some ⟨"aws_security_group", "web", some "main.tf"⟩ ∧
      ∃ field reason, (e.evaluate halfMalformedGroup).failures =
        [⟨"network-open-ingress", "aws_security_group", "web", (RuleError.malformed field reason).message⟩] := by
  intro e
  have sublist : [Rule.Storage.noVersioning, Rule.Network.openIngress, Rule.Network.openEgress].Sublist Rule.builtin :=
    .cons _ (.cons _ (.cons_cons _ (.cons_cons _ (.cons_cons _ (List.nil_sublist _)))))
  have slots : e.list .all = [Rule.Storage.noVersioning, Rule.Network.openIngress, Rule.Network.openEgress] :=
    (registerAll_builtin sublist).2
  have selected : ∀ r ∈ e.list .all, r ∈ Rule.builtin := fun r member => sublist.subset (slots ▸ member)
  obtain ⟨f, g, told, egress, ingress⟩ : ∃ f g, e.evaluate halfMalformedGroup = ⟨[f], [g]⟩ ∧
      f.ruleId = "network-open-egress" ∧ g.ruleId = "network-open-ingress" := by
    rw [evaluate_eq, slots]
    exact ⟨_, _, rfl, rfl, rfl⟩
  obtain ⟨found, failed, _⟩ := evaluate_attributed _ selected halfMalformedGroup
  rw [told] at found failed ⊢
  obtain ⟨_, _, _, _, about, _, severity, _⟩ := found f (List.mem_singleton_self f)
  obtain ⟨r, field, reason, _, _, _, _, rfl⟩ := failed g (List.mem_singleton_self g)
  have named : r.id = "network-open-ingress" := ingress
  rw [if_pos egress] at severity
  rw [named]
  exact ⟨selected, f, rfl, severity, about, field, reason, rfl⟩

end RuleEngine

end InfraAudit
