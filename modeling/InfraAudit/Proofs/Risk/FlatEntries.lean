import InfraAudit.Proofs.Risk.Groups
import InfraAudit.Proofs.Rule.Exposure

/-!
An entry of a security group is written in two forms: flat, as a resource of its own that
names its direction, or within a group that lists it under that direction. Both are the
same entries for the rules (`entries_groupOf`), and the same concerns for the analysis of
risks.
-/
namespace InfraAudit

open Rule.Network (Direction Exposure entries)

/-! ### Rules -/

/-- A finding about a resource, told of another type. -/
def Finding.toldOf (f : Finding) (resourceType : String) : Finding :=
  { f with resource := f.resource.map fun ref => { ref with resourceType } }

/-- The state of a group that has one entry. -/
def groupOf (d : Direction) (entry : Value) : Value := .object [(d.name, .array [entry])]

theorem Rule.Network.Direction.name_injective : Function.Injective Direction.name := by
  intro d e same
  cases d <;> cases e <;> first | rfl | exact absurd same (by decide)

/-- The entries of a target, in either direction, whichever form it has. -/
theorem entries_groupOf {entry : Value} {d : Direction} (typed : entry.field? "type" = some (.string d.name))
    (name : String) (path : Option String) (e : Direction) :
    entries ⟨groupOf d entry, "aws_security_group", name, path⟩ e =
      entries ⟨entry, "aws_security_group_rule", name, path⟩ e := by
  have flat := Rule.Network.entries_of_single (t := ⟨entry, "aws_security_group_rule", name, path⟩) rfl e
  rw [flat, Value.fieldStr?_eq_some_iff.mpr typed]
  by_cases same : d = e
  · subst same
    have held : (groupOf d entry).field? d.name = some (.array [entry]) := by simp [groupOf, Value.field?]
    simp [entries, held]
  · have apart : d.name ≠ e.name := fun named => same (Rule.Network.Direction.name_injective named)
    have missing : (groupOf d entry).field? e.name = none := by
      simp [groupOf, Value.field?, List.lookup_cons, beq_eq_false_iff_ne.mpr (Ne.symm apart)]
    simp [entries, missing, apart]

/-- What a scan reports is told of another type. -/
theorem scan_toldOf {s t : Target} {d : Direction} (same : entries t d = entries s d)
    (probe : Value → Except RuleError (Option String)) {report report' : String → Finding}
    (told : ∀ text, report text = (report' text).toldOf t.resourceType) :
    (do let evidence ← Rule.Network.firstOf probe (← entries t d); return evidence.map report) =
      (do let evidence ← Rule.Network.firstOf probe (← entries s d); return evidence.map report').map
        (Option.map (Finding.toldOf · t.resourceType)) := by
  rw [same]
  cases entries s d with
  | error e => rfl
  | ok items =>
    cases found : Rule.Network.firstOf probe items with
    | error e => simp [bind, Except.bind, found, Except.map]
    | ok evidence =>
      cases evidence with
      | none => simp [bind, Except.bind, found, pure, Except.pure, Except.map]
      | some text => simp [bind, Except.bind, found, pure, Except.pure, Except.map, told]

/-- Rules about security groups say the same of targets with the same entries, but for the
    type of the resource. -/
theorem evaluate_toldOf (x : Exposure) {s t : Target} (same : ∀ d, entries t d = entries s d) (name : t.name = s.name)
    (path : t.path = s.path) :
    x.rule.evaluate t = (x.rule.evaluate s).map (Option.map (Finding.toldOf · t.resourceType)) := by
  obtain ⟨resource, resourceType, _, _⟩ := t
  obtain ⟨resource', resourceType', name', path'⟩ := s
  subst name path
  cases x with
  | ports => exact scan_toldOf (same .ingress) _ fun text => rfl
  | traffic => exact scan_toldOf (same .egress) _ fun text => rfl
  | shell => exact scan_toldOf (same .ingress) _ fun text => rfl

/-! ### Risks -/

namespace Risk

/-- An analysis of the same concerns, told of another type. -/
theorem analyze_toldOf {r s : Plan.Resource} (same : raised s = raised r) (address : s.address = r.address) :
    analyze s = { analyze r with resourceType := s.resourceType } := by
  have left := notes_analyze s
  rw [same] at left
  have right := notes_analyze r
  refine left.unique ⟨right.concerns, right.recommendations, right.distinct, right.bounded, right.reached⟩ ?_ ?_
  · exact (address_analyze s).trans (address.trans (address_analyze r).symm)
  · exact resourceType_analyze s

theorem raised_of_group {r : Plan.Resource} {state : Value} (provider : r.providerShortName = "aws")
    (group : r.resourceType ∈ Rule.Network.securityGroupTypes) (after : r.after = some state)
    (object : state.isObject = true) : raised r = Aws.entryConcerns (Aws.entriesOf r.resourceType state) := by
  have planned : r.plannedState? = some state := by
    rw [Plan.Resource.plannedState?, after]
    cases state with
    | object fields => rfl
    | _ => cases object
  rw [raised, planned, Option.elim_some, provider]
  exact Aws.concerns_of_group group state

theorem Aws.entriesOf_groupOf (d : Direction) (entry : Value) : entriesOf "aws_security_group" (groupOf d entry) = [entry] := by
  cases d <;> rfl

end Risk

/-- An entry of a security group is judged alike in both forms, flat and in a group that
    has no other entry: each rule finds the same, finds nothing or fails with the same
    error, and the analysis of risks notes the same concerns. -/
theorem flat_entry_judged_as_group {entry : Value} {d : Direction} (typed : entry.field? "type" = some (.string d.name))
    (name : String) (path : Option String) :
    (∀ x : Exposure,
      x.rule.evaluate ⟨groupOf d entry, "aws_security_group", name, path⟩ =
        (x.rule.evaluate ⟨entry, "aws_security_group_rule", name, path⟩).map
          (Option.map (Finding.toldOf · "aws_security_group"))) ∧
    ∀ r : Plan.Resource, r.providerShortName = "aws" → r.resourceType = "aws_security_group_rule" →
      r.after = some entry →
      Risk.analyze { r with resourceType := "aws_security_group", after := some (groupOf d entry) } =
        { Risk.analyze r with resourceType := "aws_security_group" } := by
  refine ⟨fun x => evaluate_toldOf x (entries_groupOf typed name path) rfl rfl, ?_⟩
  intro r provider flat after
  apply Risk.analyze_toldOf
  · have group : "aws_security_group" ∈ Rule.Network.securityGroupTypes := by decide
    have group' : "aws_security_group_rule" ∈ Rule.Network.securityGroupTypes := by decide
    have nested := Risk.raised_of_group (r := { r with resourceType := "aws_security_group", after := some (groupOf d entry) })
      provider group rfl rfl
    have single := Risk.raised_of_group provider (flat ▸ group') after (Value.isObject_of_field? typed)
    rw [nested, single, Risk.Aws.entriesOf_groupOf, Risk.Aws.entriesOf, if_pos flat]
  · rfl

/-- An entry that is open to all addresses, whose first port is a text. -/
def misnumberedEntry : Value :=
  .object [("cidr_blocks", .array [.string "0.0.0.0/0"]), ("from_port", .string "ssh"), ("type", .string "ingress")]

/-- A rule of a security group that is created in a state. -/
def flatCreation (state : Value) : Plan.Resource :=
  { groupCreation state with address := "aws_security_group_rule.web", resourceType := "aws_security_group_rule" }

/-- In both forms, the rule about secure shells fails on an entry that is critical for the analysis. -/
theorem flat_entry_judged_as_group_misnumbered :
    Rule.Network.sshOpen.evaluate ⟨groupOf .ingress misnumberedEntry, "aws_security_group", "web", none⟩ =
        .error (.malformed "from_port" "expected a port number, got \"ssh\"") ∧
      (Risk.analyze { flatCreation misnumberedEntry with
        resourceType := "aws_security_group", after := some (groupOf .ingress misnumberedEntry) }).level = .critical := by
  have typed : misnumberedEntry.field? "type" = some (.string Direction.ingress.name) := rfl
  obtain ⟨rules, risks⟩ := flat_entry_judged_as_group typed "web" none
  rw [risks (flatCreation misnumberedEntry) (by decide +kernel) rfl rfl]
  refine ⟨(rules .shell).trans ?_, by decide +kernel⟩
  have refused : Rule.Network.sshOpen.evaluate ⟨misnumberedEntry, "aws_security_group_rule", "web", none⟩ =
      .error (.malformed "from_port" "expected a port number, got \"ssh\"") := by
    rfl
  exact congrArg (Except.map _) refused

end InfraAudit
