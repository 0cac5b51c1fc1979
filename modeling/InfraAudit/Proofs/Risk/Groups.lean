import InfraAudit.Proofs.Risk.Buckets
import InfraAudit.Proofs.Rule.Network

/-!
Security groups are looked at by three rules and by the analysis of risks. Where a rule
can read the ports of an entry, the analysis reads the same ones (`portsOf_of_portRange`);
where it cannot, the rule fails and the analysis puts all ports in their place. The
analysis looks at every entry (`Risk.level_of_group`), each rule only at those before the
one that settles its outcome.
-/
namespace InfraAudit

open Rule.Network (Direction PortRange Settles anyIpv4 securityGroupTypes)

/-! ### Levels -/

namespace Risk

theorem level_analyze {r : Plan.Resource} {state : Value} (planned : r.plannedState? = some state) :
    (analyze r).level = .critical ↔
      ∃ c ∈ concernsOf r.providerShortName r.resourceType state, c.level = .critical := by
  have notes := notes_analyze r
  simp only [raised, planned, Option.elim_some] at notes
  constructor
  · intro critical
    rcases notes.reached with low | ⟨c, noted, same⟩
    · rw [critical] at low
      cases low
    · exact ⟨c, mem_firsts.mp noted, same.trans critical⟩
  · rintro ⟨c, member, critical⟩
    have highest := notes.bounded c (mem_firsts.mpr member)
    rw [critical] at highest
    exact Level.eq_critical_of_rank highest

namespace Aws

/-- The entries of a security group that the analysis looks at. -/
def entriesOf (resourceType : String) (state : Value) : List Value :=
  if resourceType = "aws_security_group_rule" then [state]
  else state.entries Direction.ingress.name ++ state.entries Direction.egress.name

theorem concerns_of_group {resourceType : String} (group : resourceType ∈ securityGroupTypes) (state : Value) :
    concerns resourceType state = entryConcerns (entriesOf resourceType state) := by
  simp only [securityGroupTypes, List.mem_cons, List.not_mem_nil, or_false] at group
  rcases group with rfl | rfl
  · simp [concerns, entriesOf, Direction.name]
  · simp [concerns, entriesOf]

theorem exists_critical_entryConcerns (entries : List Value) :
    (∃ c ∈ entryConcerns entries, c.level = .critical) ↔ ∃ entry ∈ entries, isOpenEntry entry = true := by
  constructor
  · rintro ⟨c, member, _⟩
    obtain ⟨entry, listed, noted⟩ := List.mem_flatMap.mp member
    exact ⟨entry, listed, ((mem_concernIf _ _ _).mp noted).1⟩
  · rintro ⟨entry, listed, isOpen⟩
    exact ⟨openEntry, List.mem_flatMap.mpr ⟨entry, listed, (mem_concernIf _ _ _).mpr ⟨isOpen, rfl⟩⟩, rfl⟩

end Aws

/-- The analysis of a security group is critical when some entry is open. -/
theorem level_of_group {r : Plan.Resource} {state : Value} (planned : r.plannedState? = some state)
    (provider : r.providerShortName = "aws") (group : r.resourceType ∈ securityGroupTypes) :
    (analyze r).level = .critical ↔
      ∃ entry ∈ Aws.entriesOf r.resourceType state, Aws.isOpenEntry entry = true := by
  have concerns : concernsOf r.providerShortName r.resourceType state = Aws.concerns r.resourceType state := by
    rw [provider]
    rfl
  rw [level_analyze planned, concerns, Aws.concerns_of_group group, Aws.exists_critical_entryConcerns]

theorem planned_of_critical {r : Plan.Resource} (critical : (analyze r).level = .critical) :
    ∃ state, r.plannedState? = some state := by
  cases planned : r.plannedState? with
  | some state => exact ⟨state, rfl⟩
  | none =>
    rw [analyze, planned] at critical
    cases critical

end Risk

/-! ### Ports -/

namespace Risk.Aws

/-- The ports of an entry as the analysis reads them. -/
def portsRead (entry : Value) : PortRange := ⟨(portsOf entry).1, (portsOf entry).2⟩

theorem isOpenEntry_iff (entry : Value) :
    isOpenEntry entry = true ↔ entry.containsStr "cidr_blocks" anyIpv4 = true ∧
      ((portsRead entry).contains 22 = true ∨ (portsRead entry).contains 3389 = true ∨
        (portsRead entry).isFull = true) := by
  simp only [PortRange.contains_iff, PortRange.isFull_iff, isOpenEntry, portsRead, anyIpv4, Bool.and_eq_true,
    Bool.or_eq_true, decide_eq_true_eq, or_assoc]

theorem int64?_of_port? {entry : Value} {key : String} {port : Option Int}
    (read : Rule.Network.port? entry key = .ok port) : (entry.field? key).bind Value.int64? = port := by
  unfold Rule.Network.port? at read
  -- Both read an integer and take null for nothing; on any other value the rule fails.
  cases held : entry.field? key with
  | none =>
    rw [held] at read
    exact Except.ok.inj read
  | some w =>
    rw [held] at read
    cases int : w.int64? with
    | some n =>
      cases w with
      | null => cases int
      | _ =>
        simp only [int] at read
        rw [Option.bind_some, int]
        exact Except.ok.inj read
    | none =>
      cases w with
      | null => exact Except.ok.inj read
      | _ =>
        simp only [int] at read
        cases read

/-- Ports that a rule can read are those that the analysis reads. -/
theorem portsOf_of_portRange {entry : Value} {range : PortRange}
    (read : Rule.Network.portRange entry = .ok range) : portsRead entry = range := by
  unfold portsRead portsOf
  unfold Rule.Network.portRange Rule.Network.anyProtocol at read
  by_cases every : (entry.fieldStr? "protocol" == some "-1" || entry.fieldStr? "protocol" == some "all") = true
  · rw [if_pos every] at read
    cases read
    simp only [if_pos every, PortRange.full, Rule.Network.minPort, Rule.Network.maxPort]
  · rw [if_neg every] at read
    obtain ⟨first, readFirst, rest⟩ := (bind_eq_ok_iff _ _ _).mp read
    obtain ⟨last, readLast, made⟩ := (bind_eq_ok_iff _ _ _).mp rest
    cases made
    simp only [if_neg every, int64?_of_port? readFirst, int64?_of_port? readLast, Rule.Network.minPort,
      Rule.Network.maxPort]

end Risk.Aws

/-! ### Open entries -/

namespace Rule.Network

section
variable {entry : Value} {text : String}

theorem isOpenEntry_of_ssh (given : sshExposure entry = .ok (some text)) : Risk.Aws.isOpenEntry entry = true := by
  obtain ⟨isOpen, range, read, inside⟩ := sshExposure_eq_some given
  rw [Risk.Aws.isOpenEntry_iff, Risk.Aws.portsOf_of_portRange read]
  exact ⟨isOpen, .inl inside⟩

theorem isOpenEntry_of_egress (given : egressExposure entry = .ok (some text))
    (isOpen : entry.containsStr "cidr_blocks" anyIpv4 = true) : Risk.Aws.isOpenEntry entry = true := by
  obtain ⟨range, read, full⟩ := egressExposure_eq_some given
  rw [Risk.Aws.isOpenEntry_iff, Risk.Aws.portsOf_of_portRange read]
  exact ⟨isOpen, .inr (.inr full)⟩

/-- The rule about open ingress does not pass over an entry that is open for the
    analysis: it finds sensitive ports or cannot read them. -/
theorem ingressExposure_ne_none_of_isOpenEntry (isOpen : Risk.Aws.isOpenEntry entry = true) :
    ingressExposure entry ≠ .ok none := by
  obtain ⟨anywhere, ports⟩ := (Risk.Aws.isOpenEntry_iff entry).mp isOpen
  refine ingressExposure_ne_none (openBlock?_of_anyIpv4 anywhere) fun range read => ?_
  rw [Risk.Aws.portsOf_of_portRange read] at ports
  rcases ports with ssh | desktop | full
  · exact ⟨22, by decide, ssh⟩
  · exact ⟨3389, by decide, desktop⟩
  · exact ⟨22, by decide, PortRange.contains_of_isFull full (by decide)⟩

end

/-! ### Outcomes on a security group -/

section
variable {t : Target} {items : List Value} {entry : Value} {d : Direction}

/-- The rule about open ingress finds something, or fails, where an entry of the
    direction is open for the analysis. -/
theorem openIngress_ne_none (listed : entries t .ingress = .ok items) (member : entry ∈ items)
    (isOpen : Risk.Aws.isOpenEntry entry = true) : openIngress.evaluate t ≠ .ok none := by
  intro nothing
  obtain ⟨items', listed', silent⟩ := evaluate_eq_none_iff.mp nothing
  rw [listed] at listed'
  cases listed'
  exact ingressExposure_ne_none_of_isOpenEntry isOpen (silent entry member)

theorem mem_entriesOf (group : t.resourceType ∈ securityGroupTypes) (listed : entries t d = .ok items)
    (member : entry ∈ items) : entry ∈ Risk.Aws.entriesOf t.resourceType t.resource := by
  simp only [securityGroupTypes, List.mem_cons, List.not_mem_nil, or_false] at group
  rcases group with group | single
  -- A group lists its entries by direction; the flat type is its only entry.
  · rw [entries_of_group group listed] at member
    rw [Risk.Aws.entriesOf, if_neg (by simp [group]), List.mem_append]
    cases d with
    | ingress => exact .inl member
    | egress => exact .inr member
  · rw [entries_of_single single] at listed
    cases listed
    rw [Risk.Aws.entriesOf, if_pos single]
    split at member
    · exact member
    · cases member

/-- A target without entries in the direction of egress: a security group that lists
    none, or a rule of one that is about ingress. -/
def WithoutEgress (t : Target) : Prop :=
  if t.resourceType = "aws_security_group_rule" then t.resource.fieldStr? "type" = some Direction.ingress.name
  else t.resource.entries Direction.egress.name = []

theorem mem_entries_of_withoutEgress (group : t.resourceType ∈ securityGroupTypes) (inward : WithoutEgress t)
    (member : entry ∈ Risk.Aws.entriesOf t.resourceType t.resource) :
    ∃ items, entries t .ingress = .ok items ∧ entry ∈ items := by
  simp only [securityGroupTypes, List.mem_cons, List.not_mem_nil, or_false] at group
  rcases group with group | single
  · have other : t.resourceType ≠ "aws_security_group_rule" := by simp [group]
    rw [WithoutEgress, if_neg other] at inward
    rw [Risk.Aws.entriesOf, if_neg other, inward, List.append_nil] at member
    have held := Value.field?_of_entries (List.ne_nil_of_mem member)
    refine ⟨_, ?_, member⟩
    unfold entries
    rw [if_neg (by simp [group]), held]
  · rw [WithoutEgress, if_pos single] at inward
    rw [Risk.Aws.entriesOf, if_pos single] at member
    exact ⟨[t.resource], by rw [entries_of_single single, if_pos inward], member⟩

end

end Rule.Network

theorem Plan.Resource.planned_of_entry {r : Plan.Resource} {t : Target} {d : Direction} {items : List Value} {entry : Value}
    (state : r.after = some t.resource) (listed : Rule.Network.entries t d = .ok items) (member : entry ∈ items) :
    r.plannedState? = some t.resource := by
  -- A null state is not planned, but it lists no entries either.
  have object : t.resource.isNull = false := by
    cases held : t.resource with
    | null =>
      have none : items = [] := by
        unfold Rule.Network.entries at listed
        rw [held] at listed
        split at listed <;> exact (Except.ok.inj listed).symm
      rw [none] at member
      cases member
    | _ => rfl
  rw [Plan.Resource.plannedState?, state, Option.filter_some, object]
  rfl

/-- The rules about security groups and the analysis of one agree as far as entries for
    all addresses of version 4 go. Where secure shells are open, the rule about open
    ingress finds something or fails, and the analysis is critical; it is as well when the
    entry that lets all traffic out is for these addresses. Without egress, an analysis
    is critical only if the rule about open ingress finds something or fails. -/
theorem group_rules_agree_with_risk {r : Plan.Resource} {t : Target} (provider : r.providerShortName = "aws")
    (group : t.resourceType ∈ securityGroupTypes) (type : r.resourceType = t.resourceType)
    (state : r.after = some t.resource) :
    (∀ f, Rule.Network.sshOpen.evaluate t = .ok (some f) →
      Rule.Network.openIngress.evaluate t ≠ .ok none ∧ (Risk.analyze r).level = .critical) ∧
    (∀ f, Rule.Network.openEgress.evaluate t = .ok (some f) →
      ∃ items entry text, Rule.Network.entries t .egress = .ok items ∧
        Settles Rule.Network.egressExposure items entry text ∧ f.evidence = some text ∧
        (entry.containsStr "cidr_blocks" anyIpv4 = true → (Risk.analyze r).level = .critical)) ∧
    (Rule.Network.WithoutEgress t → (Risk.analyze r).level = .critical →
      Rule.Network.openIngress.evaluate t ≠ .ok none) := by
  -- An entry that is open for the analysis makes it critical, in either direction.
  have critical : ∀ {d : Direction} {items : List Value} {entry : Value}, Rule.Network.entries t d = .ok items →
      entry ∈ items → Risk.Aws.isOpenEntry entry = true → (Risk.analyze r).level = .critical := by
    intro d items entry listed member isOpen
    have planned := Plan.Resource.planned_of_entry state listed member
    rw [Risk.level_of_group planned provider (type ▸ group), type]
    exact ⟨entry, Rule.Network.mem_entriesOf group listed member, isOpen⟩
  refine ⟨fun f found => ?_, fun f found => ?_, fun inward level => ?_⟩
  · obtain ⟨items, entry, text, listed, settles, _⟩ := Rule.Network.evaluate_eq_some_iff.mp found
    have isOpen := Rule.Network.isOpenEntry_of_ssh settles.probe_eq
    exact ⟨Rule.Network.openIngress_ne_none listed settles.mem isOpen, critical listed settles.mem isOpen⟩
  · obtain ⟨items, entry, text, listed, settles, rfl⟩ := Rule.Network.evaluate_eq_some_iff.mp found
    refine ⟨items, entry, text, listed, settles, rfl, fun anywhere => ?_⟩
    exact critical listed settles.mem (Rule.Network.isOpenEntry_of_egress settles.probe_eq anywhere)
  · obtain ⟨planned, held⟩ := Risk.planned_of_critical level
    have same : planned = t.resource := by
      rw [Plan.Resource.plannedState?, state] at held
      exact (Option.some.inj (Option.filter_eq_some_iff.mp held).1).symm
    subst same
    rw [Risk.level_of_group held provider (type ▸ group), type] at level
    obtain ⟨entry, member, isOpen⟩ := level
    obtain ⟨items, listed, member⟩ := Rule.Network.mem_entries_of_withoutEgress group inward member
    exact Rule.Network.openIngress_ne_none listed member isOpen

/-- An entry that is open to all addresses of version 4 from a port on, up to a last one
    that may be no number. -/
def anywhereEntry (first : Int) (last : Value) : Value :=
  .object
    [("cidr_blocks", .array [.string anyIpv4]), ("from_port", .number (.int first)), ("to_port", last)]

/-- A security group that is created in a state. -/
def groupCreation (state : Value) : Plan.Resource :=
  { address := "aws_security_group.web"
    resourceType := "aws_security_group"
    name := "web"
    provider := "registry.terraform.io/hashicorp/aws"
    action := .create
    before := none
    after := some state }

/-- A group with an entry for secure shells before one whose last port is a text, and
    an entry that lets all traffic out. -/
def shellGroup : Value :=
  .object
    [("egress", .array [anywhereEntry 0 .null]), ("ingress", .array [anywhereEntry 22 .null, anywhereEntry 0 (.string "x")])]

theorem group_rules_agree_with_risk_shell :
    ∃ t, (groupCreation shellGroup).target? = some t ∧ Rule.Network.openIngress.evaluate t ≠ .ok none ∧
      (Risk.analyze (groupCreation shellGroup)).level = .critical := by
  obtain ⟨ssh, _, _⟩ := group_rules_agree_with_risk (r := groupCreation shellGroup)
    (t := ⟨shellGroup, "aws_security_group", "web", some "aws_security_group.web"⟩) (by decide +kernel)
    (by decide +kernel) rfl rfl
  have given : Rule.Network.sshExposure (anywhereEntry 22 .null) =
      .ok (some "SSH port (22) is accessible from 0.0.0.0/0") := by
    decide +kernel
  have listed : Rule.Network.entries ⟨shellGroup, "aws_security_group", "web", some "aws_security_group.web"⟩ .ingress =
      .ok [anywhereEntry 22 .null, anywhereEntry 0 (.string "x")] := rfl
  have settles : Settles Rule.Network.sshExposure [anywhereEntry 22 .null, anywhereEntry 0 (.string "x")]
      (anywhereEntry 22 .null) "SSH port (22) is accessible from 0.0.0.0/0" :=
    ⟨[], _, rfl, by simp, given⟩
  exact ⟨_, rfl, ssh _ (Rule.Network.evaluate_eq_some_iff.mpr ⟨_, _, _, listed, settles, rfl⟩)⟩

end InfraAudit
