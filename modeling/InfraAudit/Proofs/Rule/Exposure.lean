import InfraAudit.Proofs.Rule.Network

/-!
What settles the outcome of a rule about security groups: the first entry of its direction
that is decisive, which is open and has ports that are malformed or of the kind that the
rule is about (`Exposure.Decisive`). Every rule is a scan with a probe that gives nothing
for the entries that are not decisive (`Exposure.probe_eq_none_iff`), so entries that are
not open can be put anywhere, and entries after a finding do not count.
-/
namespace InfraAudit

theorem Value.containsStr_iff {v : Value} {key needle : String} :
    v.containsStr key needle = true ↔ .string needle ∈ v.entries key := by
  rw [containsStr, List.any_eq_true]
  constructor
  · rintro ⟨item, member, same⟩
    cases item with
    | string s =>
      cases eq_of_beq same
      exact member
    | _ => cases same
  · intro member
    exact ⟨_, member, by simp [str?]⟩

namespace Rule.Network

/-! ### The first entry that counts -/

section
variable {α : Type} {counts : Value → Prop} {probe : Value → Except RuleError (Option α)}

/-- The first entry of a list that counts. -/
def IsFirst (counts : Value → Prop) (items : List Value) (entry : Value) : Prop :=
  ∃ before after, items = before ++ entry :: after ∧ (∀ e ∈ before, ¬ counts e) ∧ counts entry

theorem isFirst_cons_iff {first entry : Value} {rest : List Value} :
    IsFirst counts (first :: rest) entry ↔
      (entry = first ∧ counts first) ∨ (¬ counts first ∧ IsFirst counts rest entry) := by
  constructor
  · rintro ⟨before, after, parts, silent, held⟩
    cases before with
    | nil =>
      cases parts
      exact .inl ⟨rfl, held⟩
    | cons b before =>
      cases parts
      obtain ⟨first, later⟩ := List.forall_mem_cons.mp silent
      exact .inr ⟨first, before, after, rfl, later, held⟩
  · rintro (⟨rfl, held⟩ | ⟨silent, before, after, rfl, later, held⟩)
    · exact ⟨[], rest, rfl, by simp, held⟩
    · exact ⟨first :: before, after, rfl, List.forall_mem_cons.mpr ⟨silent, later⟩, held⟩

theorem IsFirst.holds {items : List Value} {entry : Value} (first : IsFirst counts items entry) : counts entry := by
  obtain ⟨_, _, _, _, held⟩ := first
  exact held

theorem IsFirst.append {items : List Value} {entry : Value} (first : IsFirst counts items entry) (more : List Value) :
    IsFirst counts (items ++ more) entry := by
  obtain ⟨before, after, rfl, silent, held⟩ := first
  exact ⟨before, after ++ more, by simp, silent, held⟩

/-- A scan ends with what its probe gives for the first entry for which it gives something
    or fails. -/
theorem firstOf_eq_iff {outcome : Except RuleError (Option α)} (settled : outcome ≠ .ok none) {items : List Value} :
    firstOf probe items = outcome ↔
      ∃ entry, IsFirst (fun e => probe e ≠ .ok none) items entry ∧ probe entry = outcome := by
  induction items with
  | nil =>
    refine iff_of_false (fun none => settled none.symm) ?_
    rintro ⟨entry, ⟨before, after, parts, _⟩, _⟩
    cases before <;> cases parts
  | cons first rest ih =>
    -- The scan goes on exactly where the entry does not count.
    simp only [isFirst_cons_iff, or_and_right, exists_or, and_assoc, exists_and_left, exists_eq_left, ← ih]
    rw [firstOf]
    cases given : probe first with
    | error e => simp
    | ok o => cases o <;> simp

/-- Entries for which a probe gives nothing can be put anywhere. -/
theorem firstOf_insert {more : List Value} (silent : ∀ e ∈ more, probe e = .ok none) (before after : List Value) :
    firstOf probe (before ++ more ++ after) = firstOf probe (before ++ after) := by
  induction before with
  | nil =>
    induction more with
    | nil => rfl
    | cons e more ih =>
      obtain ⟨first, later⟩ := List.forall_mem_cons.mp silent
      simp only [List.nil_append, List.cons_append, firstOf, first]
      exact ih later
  | cons b before ih => simp only [List.cons_append, firstOf, ih]

/-- What is found in a list is found in a longer one. -/
theorem firstOf_append {items : List Value} {a : α} (found : firstOf probe items = .ok (some a)) (more : List Value) :
    firstOf probe (items ++ more) = .ok (some a) := by
  rw [firstOf_eq_iff (by simp)] at found ⊢
  obtain ⟨entry, first, given⟩ := found
  exact ⟨entry, first.append more, given⟩

end

/-! ### What a target lists -/

/-- The entries of a target in a direction. A rule of a group is its only entry, in the
    direction that its type names; a group lists its entries under the direction's name. -/
def Lists (t : Target) (d : Direction) (items : List Value) : Prop :=
  if t.resourceType = "aws_security_group_rule" then
    items = if t.resource.fieldStr? "type" = some d.name then [t.resource] else []
  else (t.resource.Unset d.name ∧ items = []) ∨ t.resource.field? d.name = some (.array items)

/-- A group has something else than a list under the name of a direction. -/
def Unlisted (t : Target) (d : Direction) : Prop :=
  t.resourceType ≠ "aws_security_group_rule" ∧ ∃ v, t.resource.present? d.name = some v ∧ v.items? = none

section
variable {t : Target} {d : Direction}

theorem entries_eq_ok_iff {items : List Value} : entries t d = .ok items ↔ Lists t d items := by
  unfold entries Lists
  by_cases single : t.resourceType = "aws_security_group_rule"
  · simp only [single, beq_self_eq_true, if_true, beq_iff_eq, Except.ok.injEq]
    exact eq_comm
  · rw [if_neg (by simpa using single), if_neg single, Value.Unset]
    cases held : t.resource.field? d.name with
    | none => simp [eq_comm]
    | some v => cases v <;> simp [eq_comm]

theorem entries_eq_error_iff {e : RuleError} :
    entries t d = .error e ↔ Unlisted t d ∧ e = .malformed d.name "expected a list of rule blocks" := by
  unfold entries Unlisted Value.present?
  by_cases single : t.resourceType = "aws_security_group_rule"
  · simp [single]
  · rw [if_neg (by simpa using single)]
    cases held : t.resource.field? d.name with
    | none => simp
    | some v => cases v <;> simp [single, Value.isNull, Value.items?, Option.filter, eq_comm]

end

/-! ### The ports of an entry -/

section
variable (entry : Value)

/-- An entry is about every protocol. -/
def EveryProtocol : Prop := entry.fieldStr? "protocol" = some "-1" ∨ entry.fieldStr? "protocol" = some "all"

instance : Decidable (EveryProtocol entry) := inferInstanceAs (Decidable (_ ∨ _))

/-- What an entry has under a key is no port: it is not null, and no integer of 64 bits. -/
def Misnumbers (key : String) : Prop := ∃ v, entry.present? key = some v ∧ v.int64? = none

/-- The ports of an entry are malformed. -/
def Malformed : Prop := ¬ EveryProtocol entry ∧ (Misnumbers entry "from_port" ∨ Misnumbers entry "to_port")

/-- The error about what an entry has under a key instead of a port. -/
def PortFault (key : String) (e : RuleError) : Prop :=
  ∃ v, entry.present? key = some v ∧ v.int64? = none ∧ e = .malformed key ("expected a port number, got " ++ v.compact)

/-- The error about the malformed ports of an entry, of which the first one counts. -/
def Faults (e : RuleError) : Prop :=
  ¬ EveryProtocol entry ∧
    (PortFault entry "from_port" e ∨ (¬ Misnumbers entry "from_port" ∧ PortFault entry "to_port" e))

/-- The ports that an entry denotes if they are not malformed: all for every protocol;
    else from the first one, or 0, to the last one, or 65535 if there is none or it is 0. -/
def rangeOf : PortRange :=
  if EveryProtocol entry then ⟨0, 65535⟩
  else
    ⟨((entry.present? "from_port").bind Value.int64?).getD 0,
      (((entry.present? "to_port").bind Value.int64?).filter (· != 0)).getD 65535⟩

variable {entry}

theorem misnumbers_iff {key : String} : Misnumbers entry key ↔ ∃ e, PortFault entry key e := by
  constructor
  · rintro ⟨v, held, noInt⟩
    exact ⟨_, v, held, noInt, rfl⟩
  · rintro ⟨_, v, held, noInt, _⟩
    exact ⟨v, held, noInt⟩

theorem malformed_iff : Malformed entry ↔ ∃ e, Faults entry e := by
  simp only [Malformed, Faults, exists_and_left, exists_or, ← misnumbers_iff]
  tauto

theorem port?_eq (entry : Value) (key : String) :
    port? entry key =
      match entry.present? key with
      | none => .ok none
      | some v =>
        match v.int64? with
        | some n => .ok (some n)
        | none => .error (.malformed key ("expected a port number, got " ++ v.compact)) := by
  unfold port? Value.present?
  cases entry.field? key with
  | none => rfl
  | some v => cases v <;> rfl

theorem port?_eq_ok_iff {key : String} {port : Option Int} :
    port? entry key = .ok port ↔ ¬ Misnumbers entry key ∧ port = (entry.present? key).bind Value.int64? := by
  rw [port?_eq, Misnumbers]
  cases entry.present? key with
  | none => simp [eq_comm]
  | some v => cases int : v.int64? <;> simp [int, eq_comm]

theorem port?_eq_error_iff {key : String} {e : RuleError} : port? entry key = .error e ↔ PortFault entry key e := by
  rw [port?_eq, PortFault]
  cases entry.present? key with
  | none => simp
  | some v => cases int : v.int64? <;> simp [int, eq_comm]

theorem portRange_of_not_malformed (sound : ¬ Malformed entry) : portRange entry = .ok (rangeOf entry) := by
  unfold portRange rangeOf
  by_cases every : EveryProtocol entry
  · have any : anyProtocol entry = true := by simpa [anyProtocol, EveryProtocol] using every
    rw [if_pos any, if_pos every]
    rfl
  · have some : ¬ anyProtocol entry = true := by simpa [anyProtocol, EveryProtocol] using every
    have ports : ¬ (Misnumbers entry "from_port" ∨ Misnumbers entry "to_port") := fun bad => sound ⟨every, bad⟩
    rw [not_or] at ports
    rw [if_neg some, if_neg every, port?_eq_ok_iff.mpr ⟨ports.1, rfl⟩, port?_eq_ok_iff.mpr ⟨ports.2, rfl⟩]
    rfl

theorem portRange_eq_error_iff {e : RuleError} : portRange entry = .error e ↔ Faults entry e := by
  unfold portRange Faults
  by_cases every : EveryProtocol entry
  · have any : anyProtocol entry = true := by simpa [anyProtocol, EveryProtocol] using every
    simp [any, every]
  · have some : ¬ anyProtocol entry = true := by simpa [anyProtocol, EveryProtocol] using every
    rw [if_neg some, ← port?_eq_error_iff, ← port?_eq_error_iff, misnumbers_iff]
    simp only [← port?_eq_error_iff]
    cases port? entry "from_port" with
    | error fault => simp [bind, Except.bind, every]
    | ok first => cases port? entry "to_port" <;> simp [bind, Except.bind, pure, Except.pure, every]

end

/-! ### What the rules look for -/

/-- What the rules about security groups look for: sensitive ports that are open to the
    internet, all traffic that may leave for it, and open secure shells. -/
inductive Exposure where
  | ports
  | traffic
  | shell
  deriving DecidableEq

namespace Exposure

/-- The rule that looks for an exposure. -/
def rule : Exposure → Rule
  | .ports => openIngress
  | .traffic => openEgress
  | .shell => sshOpen

/-- The direction of the entries that the rule looks at. -/
def direction : Exposure → Direction
  | .traffic => .egress
  | .ports | .shell => .ingress

/-- What the rule asks of an entry. -/
def probe : Exposure → Value → Except RuleError (Option String)
  | .ports => ingressExposure
  | .traffic => egressExposure
  | .shell => sshExposure

/-- An entry is open: to all addresses of version 4, or for the rules about open groups to
    those of version 6. -/
def Opens (x : Exposure) (entry : Value) : Prop :=
  .string anyIpv4 ∈ entry.entries "cidr_blocks" ∨ (x ≠ .shell ∧ .string anyIpv6 ∈ entry.entries "ipv6_cidr_blocks")

/-- A range has the ports that the rule is about. -/
def Meets : Exposure → PortRange → Prop
  | .ports, range => ∃ port ∈ sensitivePorts, range.first ≤ port ∧ port ≤ range.last
  | .traffic, range => range.first ≤ 0 ∧ 65535 ≤ range.last
  | .shell, range => range.first ≤ 22 ∧ 22 ≤ range.last

/-- An entry decides the outcome of the rule, unless one before it does. -/
def Decisive (x : Exposure) (entry : Value) : Prop := x.Opens entry ∧ (Malformed entry ∨ x.Meets (rangeOf entry))

/-- The block of addresses that evidence names. -/
def block (entry : Value) : String := if entry.containsStr "cidr_blocks" anyIpv4 then anyIpv4 else anyIpv6

/-- The evidence of sensitive ports. -/
def portsEvidence (block : String) (ports : List Int) : String :=
  "Ingress rule allows " ++ block ++ " access to ports: " ++ String.intercalate ", " (ports.map toString)

/-- The evidence of traffic that may leave. -/
def trafficEvidence (block : String) : String := "Egress rule allows " ++ block ++ " access to all ports"

/-- The evidence of open secure shells. -/
def shellEvidence : String := "SSH port (22) is accessible from 0.0.0.0/0"

/-- The evidence that the rule gives of an entry. -/
def evidence (entry : Value) : Exposure → String
  | .ports =>
    portsEvidence (block entry)
      (sensitivePorts.filter fun port => (rangeOf entry).first ≤ port ∧ port ≤ (rangeOf entry).last)
  | .traffic => trafficEvidence (block entry)
  | .shell => shellEvidence

/-! ### Ranges -/

section
variable {range : PortRange}

theorem exposedPorts_eq (range : PortRange) :
    exposedPorts range = sensitivePorts.filter (fun port => range.first ≤ port ∧ port ≤ range.last) := by
  unfold exposedPorts
  congr 1
  funext port
  simp [PortRange.contains]

theorem meets_ports_iff : ports.Meets range ↔ exposedPorts range ≠ [] := by
  simp [Meets, exposedPorts, PortRange.contains_iff, List.filter_eq_nil_iff]

theorem meets_traffic_iff : traffic.Meets range ↔ range.isFull = true := range.isFull_iff.symm

theorem meets_shell_iff : shell.Meets range ↔ range.contains sshPort = true := (range.contains_iff sshPort).symm

end

/-! ### Probes -/

section
variable {x : Exposure} {entry : Value}

theorem opens_shell_iff : shell.Opens entry ↔ entry.containsStr "cidr_blocks" anyIpv4 = true := by
  simp [Opens, Value.containsStr_iff]

theorem openBlock?_of_opens (opened : x.Opens entry) : openBlock? entry = some (block entry) := by
  unfold openBlock? block
  by_cases four : entry.containsStr "cidr_blocks" anyIpv4 = true
  · rw [if_pos four, if_pos four]
  · have six : entry.containsStr "ipv6_cidr_blocks" anyIpv6 = true := by
      rw [Value.containsStr_iff] at four ⊢
      exact (opened.resolve_left four).2
    rw [if_neg four, if_pos six, if_neg four]

theorem openBlock?_of_not_opens (group : x ≠ .shell) (closed : ¬ x.Opens entry) : openBlock? entry = none := by
  rw [Opens, not_or, ← Value.containsStr_iff, ← Value.containsStr_iff] at closed
  simp only [group, ne_eq, not_false_eq_true, true_and] at closed
  simp [openBlock?, closed]

theorem probe_of_not_opens (closed : ¬ x.Opens entry) : x.probe entry = .ok none := by
  cases x with
  | ports => simp [probe, ingressExposure, openBlock?_of_not_opens (by decide) closed]
  | traffic => simp [probe, egressExposure, openBlock?_of_not_opens (by decide) closed]
  | shell => simp [probe, sshExposure, mt opens_shell_iff.mpr closed]

theorem probe_of_faults (opened : x.Opens entry) {e : RuleError} (faults : Faults entry e) :
    x.probe entry = .error e := by
  have refused := portRange_eq_error_iff.mpr faults
  cases x with
  | ports => simp [probe, ingressExposure, openBlock?_of_opens opened, refused, bind, Except.bind]
  | traffic => simp [probe, egressExposure, openBlock?_of_opens opened, refused, bind, Except.bind]
  | shell => simp [probe, sshExposure, opens_shell_iff.mp opened, refused, bind, Except.bind]

theorem probe_of_meets (opened : x.Opens entry) (sound : ¬ Malformed entry) (meets : x.Meets (rangeOf entry)) :
    x.probe entry = .ok (some (evidence entry x)) := by
  have read := portRange_of_not_malformed sound
  cases x with
  | ports =>
    rw [meets_ports_iff] at meets
    simp only [probe, ingressExposure, openBlock?_of_opens opened, read, bind, Except.bind, pure, Except.pure,
      List.isEmpty_iff, meets, if_false]
    rw [exposedPorts_eq]
    rfl
  | traffic =>
    rw [meets_traffic_iff] at meets
    simp only [probe, egressExposure, openBlock?_of_opens opened, read, bind, Except.bind, pure, Except.pure, meets,
      if_true]
    rfl
  | shell =>
    rw [meets_shell_iff] at meets
    simp only [probe, sshExposure, opens_shell_iff.mp opened, read, bind, Except.bind, pure, Except.pure, meets,
      if_true]
    rfl

theorem probe_of_not_meets (opened : x.Opens entry) (sound : ¬ Malformed entry) (misses : ¬ x.Meets (rangeOf entry)) :
    x.probe entry = .ok none := by
  have read := portRange_of_not_malformed sound
  cases x with
  | ports =>
    rw [meets_ports_iff, not_not] at misses
    simp [probe, ingressExposure, openBlock?_of_opens opened, read, bind, Except.bind, pure, Except.pure, misses]
  | traffic =>
    rw [meets_traffic_iff] at misses
    simp [probe, egressExposure, openBlock?_of_opens opened, read, bind, Except.bind, pure, Except.pure, misses]
  | shell =>
    rw [meets_shell_iff] at misses
    simp [probe, sshExposure, opens_shell_iff.mp opened, read, bind, Except.bind, pure, Except.pure, misses]

/-- The probe gives nothing exactly for the entries that are not decisive. -/
theorem probe_eq_none_iff : x.probe entry = .ok none ↔ ¬ x.Decisive entry := by
  by_cases opened : x.Opens entry
  · by_cases bad : Malformed entry
    · obtain ⟨e, faults⟩ := malformed_iff.mp bad
      simp [probe_of_faults opened faults, Decisive, opened, bad]
    · by_cases meets : x.Meets (rangeOf entry)
      · simp [probe_of_meets opened bad meets, Decisive, opened, meets]
      · simp [probe_of_not_meets opened bad meets, Decisive, opened, bad, meets]
  · simp [probe_of_not_opens opened, Decisive, opened]

theorem probe_eq_error_iff (decisive : x.Decisive entry) {e : RuleError} :
    x.probe entry = .error e ↔ Faults entry e := by
  obtain ⟨opened, counted⟩ := decisive
  refine ⟨fun refused => ?_, probe_of_faults opened⟩
  by_cases bad : Malformed entry
  · obtain ⟨fault, faults⟩ := malformed_iff.mp bad
    rw [probe_of_faults opened faults] at refused
    cases refused
    exact faults
  · rw [probe_of_meets opened bad (counted.resolve_left bad)] at refused
    cases refused

theorem probe_eq_some_iff (decisive : x.Decisive entry) {text : String} :
    x.probe entry = .ok (some text) ↔ ¬ Malformed entry ∧ text = evidence entry x := by
  obtain ⟨opened, counted⟩ := decisive
  by_cases bad : Malformed entry
  · obtain ⟨fault, faults⟩ := malformed_iff.mp bad
    rw [probe_of_faults opened faults]
    simp [bad]
  · rw [probe_of_meets opened bad (counted.resolve_left bad)]
    simp [bad, eq_comm]

/-- A scan that settles something settles it by the first decisive entry. -/
theorem firstOf_probe_eq_iff {outcome : Except RuleError (Option String)} (settled : outcome ≠ .ok none)
    {items : List Value} :
    firstOf x.probe items = outcome ↔ ∃ entry, IsFirst x.Decisive items entry ∧ x.probe entry = outcome := by
  have decides : (fun e => x.probe e ≠ .ok none) = x.Decisive := by
    funext e
    rw [ne_eq, probe_eq_none_iff, not_not]
  rw [firstOf_eq_iff settled, decides]

theorem firstOf_of_isFirst {items : List Value} (first : IsFirst x.Decisive items entry) :
    firstOf x.probe items = x.probe entry :=
  (firstOf_probe_eq_iff fun silent => probe_eq_none_iff.mp silent first.holds).mpr ⟨entry, first, rfl⟩

end

/-! ### Outcomes -/

/-- A rule reports what its probe finds in some way, which is the same for all resources of
    a target. -/
def Reports (x : Exposure) (t : Target) (report : String → Finding) : Prop :=
  ∀ v, x.rule.evaluate { t with resource := v } = do
    let evidence ← firstOf x.probe (← entries { t with resource := v } x.direction)
    return evidence.map report

theorem exists_reports (x : Exposure) (t : Target) :
    ∃ report, x.Reports t report ∧ ∀ text, (report text).IsOf x.rule.info t ∧ (report text).evidence = some text := by
  cases x with
  | ports =>
    exact ⟨(openIngressInfo.finding t _ _).withEvidence, fun v => rfl,
      fun text => ⟨(openIngressInfo.isOf_finding t _ _).withEvidence _, rfl⟩⟩
  | traffic =>
    exact ⟨((openEgressInfo.finding t _ _).withSeverity .high).withEvidence, fun v => rfl,
      fun text => ⟨((openEgressInfo.isOf_finding t _ _).withSeverity _).withEvidence _, rfl⟩⟩
  | shell =>
    exact ⟨(sshOpenInfo.finding t _ _).withEvidence, fun v => rfl,
      fun text => ⟨(sshOpenInfo.isOf_finding t _ _).withEvidence _, rfl⟩⟩

section
variable {x : Exposure} {t : Target} {report : String → Finding}

theorem Reports.of_lists (reports : x.Reports t report) {v : Value} {items : List Value}
    (listed : Lists { t with resource := v } x.direction items) :
    x.rule.evaluate { t with resource := v } = (firstOf x.probe items).map (Option.map report) := by
  rw [reports v, entries_eq_ok_iff.mpr listed]
  change (firstOf x.probe items >>= fun evidence => pure (evidence.map report)) = _
  cases firstOf x.probe items <;> rfl

theorem Reports.eq_error_iff (reports : x.Reports t report) {e : RuleError} :
    x.rule.evaluate t = .error e ↔
      entries t x.direction = .error e ∨ ∃ items, Lists t x.direction items ∧ firstOf x.probe items = .error e := by
  cases listed : entries t x.direction with
  | error e' =>
    have refused : x.rule.evaluate t = .error e' := by
      refine (reports t.resource).trans ?_
      rw [listed]
      rfl
    simp [refused, ← entries_eq_ok_iff, listed]
  | ok items =>
    rw [reports.of_lists (v := t.resource) (entries_eq_ok_iff.mp listed)]
    cases scanned : firstOf x.probe items <;> simp [← entries_eq_ok_iff, listed, scanned, Except.map]

theorem map_report_eq_iff {scanned : Except RuleError (Option String)} {f : Finding} :
    scanned.map (Option.map report) = .ok (some f) ↔ ∃ text, scanned = .ok (some text) ∧ report text = f := by
  cases scanned with
  | error e => simp [Except.map]
  | ok found => cases found <;> simp [Except.map]

theorem Reports.eq_some_iff (reports : x.Reports t report) {f : Finding} :
    x.rule.evaluate t = .ok (some f) ↔
      ∃ items entry, Lists t x.direction items ∧ IsFirst x.Decisive items entry ∧ ¬ Malformed entry ∧
        report (evidence entry x) = f := by
  constructor
  · intro found
    obtain ⟨items, _, _, listed, _⟩ := evaluate_eq_some_iff.mp ((reports t.resource).symm.trans found)
    rw [entries_eq_ok_iff] at listed
    obtain ⟨text, scanned, made⟩ := map_report_eq_iff.mp ((reports.of_lists listed).symm.trans found)
    obtain ⟨entry, first, given⟩ := (firstOf_probe_eq_iff (by simp)).mp scanned
    obtain ⟨sound, rfl⟩ := (probe_eq_some_iff first.holds).mp given
    exact ⟨items, entry, listed, first, sound, made⟩
  · rintro ⟨items, entry, listed, first, sound, rfl⟩
    refine (reports.of_lists listed).trans (map_report_eq_iff.mpr ⟨_, ?_, rfl⟩)
    rw [firstOf_of_isFirst first, probe_eq_some_iff first.holds]
    exact ⟨sound, rfl⟩

end

/-- The outcome of a rule about security groups. The rule finds nothing if no entry of its
    direction is decisive; else the first decisive entry settles the outcome: its ports
    are malformed, or the finding is about it. An entry that is not open does not count,
    wherever it stands, and neither do entries after the one that is reported. -/
theorem evaluate_settled_by_first_decisive (x : Exposure) (t : Target) :
    (x.rule.evaluate t = .ok none ↔
      ∃ items, Lists t x.direction items ∧ ∀ entry ∈ items, ¬ x.Decisive entry) ∧
    (∀ e, x.rule.evaluate t = .error e ↔
      (Unlisted t x.direction ∧ e = .malformed x.direction.name "expected a list of rule blocks") ∨
        ∃ items entry, Lists t x.direction items ∧ IsFirst x.Decisive items entry ∧ Faults entry e) ∧
    ((∃ f, x.rule.evaluate t = .ok (some f)) ↔
      ∃ items entry, Lists t x.direction items ∧ IsFirst x.Decisive items entry ∧ ¬ Malformed entry) ∧
    (∀ f items entry, x.rule.evaluate t = .ok (some f) → Lists t x.direction items →
      IsFirst x.Decisive items entry → f.IsOf x.rule.info t ∧ f.evidence = some (evidence entry x)) ∧
    (∀ v before more after, Lists t x.direction (before ++ after) →
      Lists { t with resource := v } x.direction (before ++ more ++ after) → (∀ e ∈ more, ¬ x.Opens e) →
        x.rule.evaluate { t with resource := v } = x.rule.evaluate t) ∧
    (∀ v items more f, Lists t x.direction items → Lists { t with resource := v } x.direction (items ++ more) →
      x.rule.evaluate t = .ok (some f) → x.rule.evaluate { t with resource := v } = .ok (some f)) := by
  obtain ⟨report, reports, own⟩ := exists_reports x t
  refine ⟨?_, fun e => ?_, ?_, ?_, ?_, ?_⟩
  · rw [reports t.resource]
    refine evaluate_eq_none_iff.trans ?_
    simp only [entries_eq_ok_iff, probe_eq_none_iff]
  · rw [reports.eq_error_iff, entries_eq_error_iff]
    refine or_congr_right (exists_congr fun items => ?_)
    rw [firstOf_probe_eq_iff (by simp), exists_and_left]
    refine and_congr_right fun _ => exists_congr fun entry => and_congr_right fun first => ?_
    exact probe_eq_error_iff first.holds
  · constructor
    · rintro ⟨f, found⟩
      obtain ⟨items, entry, listed, first, sound, _⟩ := reports.eq_some_iff.mp found
      exact ⟨items, entry, listed, first, sound⟩
    · rintro ⟨items, entry, listed, first, sound⟩
      exact ⟨_, reports.eq_some_iff.mpr ⟨items, entry, listed, first, sound, rfl⟩⟩
  · intro f items entry found listed first
    obtain ⟨text, scanned, rfl⟩ := map_report_eq_iff.mp ((reports.of_lists listed).symm.trans found)
    rw [firstOf_of_isFirst first, probe_eq_some_iff first.holds] at scanned
    rw [← scanned.2]
    exact own text
  · intro v before more after listed grown closed
    have silent : ∀ e ∈ more, x.probe e = .ok none := fun e member => probe_of_not_opens (closed e member)
    rw [reports.of_lists grown, firstOf_insert silent]
    exact (reports.of_lists listed).symm
  · intro v items more f listed grown found
    obtain ⟨text, scanned, made⟩ := map_report_eq_iff.mp ((reports.of_lists listed).symm.trans found)
    rw [reports.of_lists grown, firstOf_append scanned]
    exact congrArg (fun f => Except.ok (some f)) made

end Exposure

/-- A group with some entries for traffic that comes in. -/
def ingressGroup (items : List Value) : Target :=
  ⟨.object [("ingress", .array items)], "aws_security_group", "web", none⟩

/-- An entry for a block of addresses of version 6 and a port. -/
def portEntry (block : String) (port : Value) : Value :=
  .object [("from_port", port), ("ipv6_cidr_blocks", .array [.string block]), ("to_port", port)]

/-- An entry with malformed ports that is not open does not hide the one after it. -/
theorem evaluate_settled_by_first_decisive_behind_closed :
    (∃ f, openIngress.evaluate (ingressGroup [portEntry anyIpv6 (.number (.int 22))]) = .ok (some f) ∧
        f.evidence = some "Ingress rule allows ::/0 access to ports: 22") ∧
      openIngress.evaluate (ingressGroup [portEntry "fd00::/8" (.bool true), portEntry anyIpv6 (.number (.int 22))]) =
        openIngress.evaluate (ingressGroup [portEntry anyIpv6 (.number (.int 22))]) := by
  obtain ⟨_, _, found, reported, inserted, _⟩ :=
    Exposure.evaluate_settled_by_first_decisive .ports (ingressGroup [portEntry anyIpv6 (.number (.int 22))])
  have listed (items : List Value) : Lists (ingressGroup items) .ingress items := entries_eq_ok_iff.mp rfl
  have sound : ¬ Malformed (portEntry anyIpv6 (.number (.int 22))) := by
    rintro ⟨_, ⟨v, held, noInt⟩ | ⟨v, held, noInt⟩⟩ <;> cases held <;> cases noInt
  have opened : Exposure.ports.Opens (portEntry anyIpv6 (.number (.int 22))) :=
    .inr ⟨by decide, List.mem_singleton_self _⟩
  have first : IsFirst Exposure.ports.Decisive [portEntry anyIpv6 (.number (.int 22))]
      (portEntry anyIpv6 (.number (.int 22))) :=
    ⟨[], [], rfl, by simp, opened, .inr ⟨22, by decide, by decide +kernel⟩⟩
  have closed : ¬ Exposure.ports.Opens (portEntry "fd00::/8" (.bool true)) := by
    rw [Exposure.Opens, ← Value.containsStr_iff, ← Value.containsStr_iff]
    decide +kernel
  refine ⟨?_, inserted _ [] [_] [_] (listed _) (listed [_, _]) (by simpa using closed)⟩
  obtain ⟨f, evaluated⟩ := found.mpr ⟨_, _, listed _, first, sound⟩
  obtain ⟨_, evidence⟩ := reported f _ _ evaluated (listed _) first
  exact ⟨f, evaluated, evidence.trans (by decide +kernel)⟩

end Rule.Network

end InfraAudit
