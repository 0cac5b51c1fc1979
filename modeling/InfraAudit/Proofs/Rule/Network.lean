import InfraAudit.Proofs.Rule.Builtin
import InfraAudit.Proofs.Validation

/-!
The rules about security groups go through the entries of a direction until one settles
the outcome: the first entry for which a probe gives something, all before it giving
nothing (`Settles`). A rule finds nothing exactly when the probe gives nothing for every
entry (`evaluate_eq_none_iff`).
-/
namespace InfraAudit.Rule.Network

/-! ### The entry that settles an outcome -/

section
variable {α : Type} {probe : Value → Except RuleError (Option α)} {items : List Value} {entry : Value} {a : α}

/-- A probe gives something for an entry of a list, and nothing for the entries before it. -/
def Settles (probe : Value → Except RuleError (Option α)) (items : List Value) (entry : Value) (a : α) : Prop :=
  ∃ before after, items = before ++ entry :: after ∧ (∀ e ∈ before, probe e = .ok none) ∧
    probe entry = .ok (some a)

theorem Settles.mem (settles : Settles probe items entry a) : entry ∈ items := by
  obtain ⟨before, after, rfl, _, _⟩ := settles
  simp

theorem Settles.probe_eq (settles : Settles probe items entry a) : probe entry = .ok (some a) := by
  obtain ⟨_, _, _, _, given⟩ := settles
  exact given

theorem settles_cons_iff {first : Value} {rest : List Value} :
    Settles probe (first :: rest) entry a ↔
      (entry = first ∧ probe first = .ok (some a)) ∨ (probe first = .ok none ∧ Settles probe rest entry a) := by
  constructor
  · rintro ⟨before, after, parts, silent, given⟩
    cases before with
    | nil =>
      cases parts
      exact .inl ⟨rfl, given⟩
    | cons b before =>
      cases parts
      exact .inr ⟨silent _ List.mem_cons_self, before, after, rfl,
        fun e member => silent e (List.mem_cons_of_mem _ member), given⟩
  · rintro (⟨rfl, given⟩ | ⟨silent, before, after, rfl, later, given⟩)
    · exact ⟨[], rest, rfl, by simp, given⟩
    · refine ⟨first :: before, after, rfl, ?_, given⟩
      intro e member
      rcases List.mem_cons.mp member with rfl | member
      · exact silent
      · exact later e member

/-- What is found is what the entry gives that settles the outcome. -/
theorem firstOf_eq_some_iff : firstOf probe items = .ok (some a) ↔ ∃ entry, Settles probe items entry a := by
  induction items with
  | nil =>
    refine iff_of_false (by simp [firstOf]) ?_
    rintro ⟨entry, settles⟩
    simpa using settles.mem
  | cons first rest ih =>
    simp only [settles_cons_iff, exists_or, exists_and_left, exists_eq_left, ← ih]
    rw [firstOf]
    cases probe first with
    | error e => simp
    | ok given => cases given <;> simp

/-- Nothing is found exactly when no entry gives anything, and none is malformed. -/
theorem firstOf_eq_none_iff : firstOf probe items = .ok none ↔ ∀ entry ∈ items, probe entry = .ok none := by
  induction items with
  | nil => simp [firstOf]
  | cons first rest ih =>
    rw [firstOf, List.forall_mem_cons, ← ih]
    cases probe first with
    | error e => simp
    | ok given => cases given <;> simp

end

/-! ### Outcomes of the rules -/

section
variable {t : Target} {d : Direction} {probe : Value → Except RuleError (Option String)} {report : String → Finding}

/-- A rule about entries finds something exactly when an entry settles it. -/
theorem evaluate_eq_some_iff {f : Finding} :
    (do let evidence ← firstOf probe (← entries t d); return evidence.map report) = Except.ok (some f) ↔
      ∃ items entry text, entries t d = .ok items ∧ Settles probe items entry text ∧ report text = f := by
  rw [bind_eq_ok_iff]
  constructor
  · rintro ⟨items, listed, probed⟩
    obtain ⟨evidence, first, reported⟩ := (bind_eq_ok_iff _ _ _).mp probed
    obtain ⟨text, rfl, made⟩ := Option.map_eq_some_iff.mp (Except.ok.inj reported)
    obtain ⟨entry, settles⟩ := firstOf_eq_some_iff.mp first
    exact ⟨items, entry, text, listed, settles, made⟩
  · rintro ⟨items, entry, text, listed, settles, rfl⟩
    refine ⟨items, listed, ?_⟩
    rw [firstOf_eq_some_iff.mpr ⟨entry, settles⟩]
    rfl

/-- A rule about entries finds nothing exactly when its probe gives nothing for any of
    them. -/
theorem evaluate_eq_none_iff :
    (do let evidence ← firstOf probe (← entries t d); return evidence.map report) = Except.ok none ↔
      ∃ items, entries t d = .ok items ∧ ∀ entry ∈ items, probe entry = .ok none := by
  rw [bind_eq_ok_iff]
  refine exists_congr fun items => and_congr_right fun _ => ?_
  rw [bind_eq_ok_iff, ← firstOf_eq_none_iff]
  constructor
  · rintro ⟨evidence, first, reported⟩
    have none := Option.map_eq_none_iff.mp (Except.ok.inj reported)
    rw [first, none]
  · intro first
    exact ⟨none, first, rfl⟩

end

/-! ### Entries of a target -/

/-- A rule of a security group is its only entry, in the direction that its type names. -/
theorem entries_of_single {t : Target} (single : t.resourceType = "aws_security_group_rule") (d : Direction) :
    entries t d = .ok (if t.resource.fieldStr? "type" = some d.name then [t.resource] else []) := by
  simp [entries, single]

/-- A security group lists its entries by direction. -/
theorem entries_of_group {t : Target} (group : t.resourceType = "aws_security_group") {d : Direction}
    {items : List Value} (listed : entries t d = .ok items) : items = t.resource.entries d.name := by
  unfold entries at listed
  rw [if_neg (by simp [group])] at listed
  unfold Value.entries Value.fieldArray?
  cases held : t.resource.field? d.name with
  | none =>
    rw [held] at listed
    exact (Except.ok.inj listed).symm
  | some w =>
    rw [held] at listed
    cases w with
    | null => exact (Except.ok.inj listed).symm
    | array inner => exact (Except.ok.inj listed).symm
    | _ => cases listed

/-! ### Ranges of ports -/

theorem PortRange.contains_iff (r : PortRange) (port : Int) :
    r.contains port = true ↔ r.first ≤ port ∧ port ≤ r.last := by
  rw [contains, Bool.and_eq_true, decide_eq_true_iff, decide_eq_true_iff]

theorem PortRange.isFull_iff (r : PortRange) : r.isFull = true ↔ r.first ≤ 0 ∧ 65535 ≤ r.last := by
  rw [isFull, Bool.and_eq_true, decide_eq_true_iff, decide_eq_true_iff]
  rfl

theorem sensitivePorts_bounds : ∀ port ∈ sensitivePorts, 0 ≤ port ∧ port ≤ 65535 := by decide

theorem PortRange.contains_of_isFull {r : PortRange} (full : r.isFull = true) {port : Int}
    (sensitive : port ∈ sensitivePorts) : r.contains port = true := by
  have bounds := sensitivePorts_bounds port sensitive
  rw [isFull_iff] at full
  rw [contains_iff]
  omega

/-! ### What probes give for an entry -/

section
variable {entry : Value}

theorem openBlock?_of_anyIpv4 (isOpen : entry.containsStr "cidr_blocks" anyIpv4 = true) :
    openBlock? entry = some anyIpv4 := by
  simp [openBlock?, isOpen]

/-- An open entry whose ports cannot be read, or are sensitive, is not passed over. -/
theorem ingressExposure_ne_none {block : String} (isOpen : openBlock? entry = some block)
    (exposes : ∀ range, portRange entry = .ok range → ∃ port ∈ sensitivePorts, range.contains port = true) :
    ingressExposure entry ≠ .ok none := by
  unfold ingressExposure
  rw [isOpen]
  cases read : portRange entry with
  | error e => simp [bind, Except.bind]
  | ok range =>
    obtain ⟨port, sensitive, inside⟩ := exposes range read
    have exposed : exposedPorts range ≠ [] := List.ne_nil_of_mem (List.mem_filter.mpr ⟨sensitive, inside⟩)
    simp [bind, Except.bind, pure, Except.pure, exposed]

theorem sshExposure_eq_some {text : String} (given : sshExposure entry = .ok (some text)) :
    entry.containsStr "cidr_blocks" anyIpv4 = true ∧
      ∃ range, portRange entry = .ok range ∧ range.contains sshPort = true := by
  unfold sshExposure at given
  by_cases isOpen : entry.containsStr "cidr_blocks" anyIpv4 = true
  · rw [if_pos isOpen] at given
    obtain ⟨range, read, reported⟩ := (bind_eq_ok_iff _ _ _).mp given
    refine ⟨isOpen, range, read, ?_⟩
    by_cases inside : range.contains sshPort = true
    · exact inside
    · rw [if_neg inside] at reported
      cases reported
  · rw [if_neg isOpen] at given
    cases given

theorem egressExposure_eq_some {text : String} (given : egressExposure entry = .ok (some text)) :
    ∃ range, portRange entry = .ok range ∧ range.isFull = true := by
  unfold egressExposure at given
  cases block : openBlock? entry with
  | none =>
    rw [block] at given
    cases given
  | some block' =>
    rw [block] at given
    obtain ⟨range, read, reported⟩ := (bind_eq_ok_iff _ _ _).mp given
    refine ⟨range, read, ?_⟩
    by_cases full : range.isFull = true
    · exact full
    · rw [if_neg full] at reported
      cases reported

end

end InfraAudit.Rule.Network
