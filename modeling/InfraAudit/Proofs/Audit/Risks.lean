import InfraAudit.Audit.Plan
import InfraAudit.Proofs.Plan.Reading
import InfraAudit.Proofs.Policy.Reports

/-!
The risks of the audit of a plan. The findings on a resource carry its address, and the
resources of a plan have addresses of their own, so that the risks at an address are
those of the one resource there (`filter_flatMap_of_keys`) and no resource has a part in
the risks at other addresses (`filter_flatMap_without`).
-/
namespace InfraAudit

/-! ### Lists of keyed parts -/

section
variable {α β κ : Type} [DecidableEq κ] {key : α → κ} {keyOf : β → Option κ} {part : α → List β}

theorem filter_part_same {x : α} (keyed : ∀ b ∈ part x, keyOf b = some (key x)) :
    (part x).filter (fun b => keyOf b = some (key x)) = part x :=
  List.filter_eq_self.mpr (fun b member => decide_eq_true (keyed b member))

theorem filter_part_other {x : α} {k : κ} (keyed : ∀ b ∈ part x, keyOf b = some (key x)) (other : key x ≠ k) :
    (part x).filter (fun b => keyOf b = some k) = [] := by
  apply List.filter_eq_nil_iff.mpr
  intro b member same
  rw [decide_eq_true_iff, keyed b member] at same
  exact other (Option.some.inj same)

/-- The members that carry a key are the part that has it. -/
theorem filter_flatMap_of_keys {items : List α} (distinct : (items.map key).Nodup)
    (keyed : ∀ x ∈ items, ∀ b ∈ part x, keyOf b = some (key x)) {x : α} (member : x ∈ items) :
    (items.flatMap part).filter (fun b => keyOf b = some (key x)) = part x := by
  induction items with
  | nil => exact absurd member List.not_mem_nil
  | cons y rest ih =>
    obtain ⟨fresh, later⟩ := List.nodup_cons.mp distinct
    obtain ⟨first, others⟩ := List.forall_mem_cons.mp keyed
    rw [List.flatMap_cons, List.filter_append]
    -- The key of `x` stands once, so that only one of the two halves has members with it.
    rcases List.mem_cons.mp member with rfl | member
    · have none : (rest.flatMap part).filter (fun b => keyOf b = some (key x)) = [] := by
        rw [List.filter_flatMap, List.flatMap_eq_nil_iff]
        intro z inside
        exact filter_part_other (others z inside) (fun same => fresh (same ▸ List.mem_map_of_mem inside))
      rw [none, List.append_nil, filter_part_same first]
    · have apart : key y ≠ key x := fun same => fresh (same ▸ List.mem_map_of_mem member)
      rw [filter_part_other first apart, List.nil_append, ih later others member]

/-- The members that do not carry a key do not depend on the parts that have it. -/
theorem filter_flatMap_without {k : κ} (before middle after : List α)
    (keyed : ∀ x ∈ middle, ∀ b ∈ part x, keyOf b = some k) :
    ((before ++ middle ++ after).flatMap part).filter (fun b => keyOf b ≠ some k) =
      ((before ++ after).flatMap part).filter (fun b => keyOf b ≠ some k) := by
  have none : (middle.flatMap part).filter (fun b => keyOf b ≠ some k) = [] := by
    apply List.filter_eq_nil_iff.mpr
    intro b member
    obtain ⟨x, inside, held⟩ := List.mem_flatMap.mp member
    simp [keyed x inside b held]
  simp only [List.flatMap_append, List.filter_append, none, List.append_nil]

end

/-! ### The risks of a resource -/

namespace PolicyRun

variable {run : PolicyRun}

/-- The risks of a resource of a plan: what is reported on its target, if it has one. -/
def risksOf (run : PolicyRun) (s : Plan.Resource) : List Finding := s.target?.toList.flatMap run.report

theorem path_of_mem_risksOf (made : run.policy.engine = .ok run.engine) {s : Plan.Resource} {f : Finding}
    (member : f ∈ run.risksOf s) : f.path? = some s.address := by
  obtain ⟨t, target, reported⟩ := List.mem_flatMap.mp member
  obtain ⟨state, _, rfl⟩ := Option.map_eq_some_iff.mp (Option.mem_toList.mp target)
  exact path_of_mem made reported

theorem ruleIds_risksOf_nodup (made : run.policy.engine = .ok run.engine) (s : Plan.Resource) :
    ((run.risksOf s).map Finding.ruleId).Nodup := by
  unfold risksOf
  cases s.target? with
  | none => exact List.nodup_nil
  | some t =>
    rw [Option.toList_some, List.flatMap_singleton]
    exact ruleIds_nodup made t

theorem report_of_slots {p : Policy} {e : RuleEngine} (slots : e.list .all = p.keptRules) (t : Target) :
    report ⟨p, e⟩ t = (Rule.evaluateAll p.keptRules t).findings.filter p.allowsFinding := by
  rw [report, RuleEngine.evaluate_eq, slots]

theorem risksOf_eq (run : PolicyRun) (s : Plan.Resource) :
    run.risksOf s =
      match s.after with
      | none | some .null => []
      | some state => run.report ⟨state, s.resourceType, s.name, some s.address⟩ := by
  unfold risksOf Plan.Resource.target? Plan.Resource.plannedState?
  cases s.after with
  | none => rfl
  | some state => cases state <;> simp [Value.isNull, Option.filter]

end PolicyRun

/-! ### Audits of plans -/

namespace PlanRequest

/-- A request selects a resource unless it is for a cloud of another provider. -/
def Selects (r : PlanRequest) (s : Plan.Resource) : Prop := ∀ cloud ∈ r.cloud, s.providerShortName = cloud.provider

instance (r : PlanRequest) (s : Plan.Resource) : Decidable (r.Selects s) :=
  inferInstanceAs (Decidable (∀ cloud ∈ r.cloud, s.providerShortName = cloud.provider))

/-- The resources of some changes that a request selects. -/
def selectOf (r : PlanRequest) (changes : List Plan.ResourceChange) : List Plan.Resource :=
  (changes.map Plan.Resource.ofChange).filter (fun s => r.Selects s)

theorem selectOf_append (r : PlanRequest) (before after : List Plan.ResourceChange) :
    r.selectOf (before ++ after) = r.selectOf before ++ r.selectOf after := by
  rw [selectOf, List.map_append, List.filter_append]
  rfl

theorem shortProvider_provider (cloud : Cloud) : Plan.Resource.shortProvider cloud.provider = cloud.provider := by
  cases cloud <;> decide +kernel

theorem select_eq (r : PlanRequest) (p : Plan) : r.select p = r.selectOf p.resourceChanges := by
  obtain ⟨workspace, planPath, cloud, policySet, depth⟩ := r
  cases cloud with
  | none => exact (List.filter_eq_self.mpr (by simp [Selects])).symm
  | some cloud =>
    apply List.filter_congr
    intro s _
    -- The full name of a provider of a cloud is its short name.
    have whole : s.provider = cloud.provider → s.providerShortName = cloud.provider := fun same => by
      rw [Plan.Resource.providerShortName, same, shortProvider_provider]
    rw [shortProvider_provider, Bool.eq_iff_iff, Bool.or_eq_true, beq_iff_eq, beq_iff_eq, decide_eq_true_iff]
    simp only [Selects, Option.mem_some_iff, forall_eq', or_iff_right_iff_imp]
    exact whole

theorem addresses_select_nodup (r : PlanRequest) {p : Plan}
    (distinct : (p.resourceChanges.map Plan.ResourceChange.address).Nodup) :
    ((r.select p).map Plan.Resource.address).Nodup := by
  have all : p.resources.map Plan.Resource.address = p.resourceChanges.map Plan.ResourceChange.address :=
    List.map_map
  rw [select_eq, selectOf]
  exact (List.filter_sublist.map _).nodup (all ▸ distinct)

theorem risks_audit (r : PlanRequest) (run : PolicyRun) (depth : Depth) (now : String) (p : Plan) :
    (r.audit run depth now p).risks = (r.select p).flatMap run.risksOf := by
  have reported : (r.audit run depth now p).risks =
      ((r.select p).filterMap Plan.Resource.target?).flatMap run.report := run.findings_evaluate _
  rw [reported]
  generalize r.select p = selected
  induction selected with
  | nil => rfl
  | cons s rest ih =>
    rw [List.flatMap_cons, ← ih, PolicyRun.risksOf, List.filterMap_cons]
    cases s.target? with
    | none => rfl
    | some t => rw [Option.toList_some, List.flatMap_singleton, List.flatMap_cons]

variable {run : PolicyRun}

/-- No two risks of a plan are of the same rule and at the same address. -/
theorem risks_pairwise (made : run.policy.engine = .ok run.engine) {selected : List Plan.Resource}
    (distinct : (selected.map Plan.Resource.address).Nodup) :
    (selected.flatMap run.risksOf).Pairwise (fun f g => f.ruleId = g.ruleId → f.path? ≠ g.path?) := by
  refine List.pairwise_flatMap.mpr ⟨fun s _ => ?_, (List.pairwise_map.mp distinct).imp ?_⟩
  · refine (List.pairwise_map.mp (PolicyRun.ruleIds_risksOf_nodup made s)).imp ?_
    exact fun apart same => absurd same apart
  · intro s t apart f first g second _ samePath
    rw [PolicyRun.path_of_mem_risksOf made first, PolicyRun.path_of_mem_risksOf made second] at samePath
    exact apart (Option.some.inj samePath)

/-- The risks at other addresses than that of a resource change do not depend on it. -/
theorem risks_without (r : PlanRequest) (made : run.policy.engine = .ok run.engine) {p : Plan}
    {before after : List Plan.ResourceChange} {changed : Plan.ResourceChange}
    (listed : p.resourceChanges = before ++ changed :: after) :
    ((r.select p).flatMap run.risksOf).filter (fun f => f.path? ≠ some changed.address) =
      ((r.selectOf (before ++ after)).flatMap run.risksOf).filter (fun f => f.path? ≠ some changed.address) := by
  rw [select_eq, listed, List.append_cons, selectOf_append, selectOf_append, selectOf_append]
  apply filter_flatMap_without
  intro s member f found
  obtain ⟨c, only, rfl⟩ := List.mem_map.mp (List.mem_of_mem_filter member)
  rw [PolicyRun.path_of_mem_risksOf made found, List.mem_singleton.mp only]
  rfl

end PlanRequest

theorem mapError_eq_ok_iff {ε δ α : Type} (f : ε → δ) (x : Except ε α) (a : α) :
    x.mapError f = .ok a ↔ x = .ok a := by
  cases x with
  | error e => exact iff_of_false (by rintro ⟨⟩) (by rintro ⟨⟩)
  | ok b =>
    constructor
    · rintro ⟨⟩
      rfl
    · rintro ⟨⟩
      rfl

theorem explainPlan_eq_ok_iff (fs : FileSystem) (c : Config) (now : String) (r : PlanRequest) (a : PlanAudit) :
    explainPlan fs c now r = .ok a ↔
      ∃ text p run, fs.readText r.planFile = .ok text ∧ Plan.parse text = .ok p ∧
        c.policyRun r.policySet = .ok run ∧ r.audit run (r.depth.getD c.depth) now p = a := by
  simp only [explainPlan, bind_eq_ok_iff, mapError_eq_ok_iff]
  constructor
  · rintro ⟨text, read, p, parsed, run, resolved, made⟩
    exact ⟨text, p, run, read, parsed, resolved, Except.ok.inj made⟩
  · rintro ⟨text, p, run, read, parsed, resolved, made⟩
    exact ⟨text, read, p, parsed, run, resolved, congrArg Except.ok made⟩

theorem Plan.parse_eq_ok_iff (text : String) (p : Plan) :
    Plan.parse text = .ok p ↔ ∃ v, Json.parse text = .ok v ∧ Plan.ofValue v = .ok p := by
  unfold Plan.parse
  cases Json.parse text with
  | error e => exact iff_of_false (by rintro ⟨⟩) (by rintro ⟨_, ⟨⟩, _⟩)
  | ok v => simp [mapError_eq_ok_iff]

/-- The audit of a plan attributes its risks. Those at the address of a selected
    resource are what the rules of the policy report on its planned state, if it has
    one; there are no others, none occurs twice, they are in the order of the plan, and
    a resource has no part in the risks at other addresses. The changed resources that
    are selected are listed in the order of the plan, and the summary is that of the
    whole plan. -/
theorem explainPlan_attributes_risks (fs : FileSystem) (c : Config) (now : String) (r : PlanRequest)
    (a : PlanAudit) (made : explainPlan fs c now r = .ok a) :
    ∃ text p policy engine,
      fs.readText r.planFile = .ok text ∧ Plan.parse text = .ok p ∧
      c.policy? r.policySet = some policy ∧ policy.engine = .ok engine ∧
      r.select p = p.resources.filter (fun s => ∀ cloud ∈ r.cloud, s.providerShortName = cloud.provider) ∧
      (∀ s ∈ r.select p,
        a.risks.filter (fun f => f.path? = some s.address) =
          match s.after with
          | none | some .null => []
          | some state =>
            (engine.evaluate ⟨state, s.resourceType, s.name, some s.address⟩).findings.filter
              (fun f => policy.minSeverity ≤ f.severity)) ∧
      (∀ f ∈ a.risks, ∃ s ∈ r.select p, f.path? = some s.address) ∧
      a.risks.Pairwise (fun f g => f.ruleId = g.ruleId → f.path? ≠ g.path?) ∧
      a.risks = (r.select p).flatMap (fun s => a.risks.filter (fun f => f.path? = some s.address)) ∧
      -- Another plan has another resource change in the place of one.
      (∀ before old new after, p.resourceChanges = before ++ old :: after → new.address = old.address →
        ∀ fs' now' text' p', fs'.readText r.planFile = .ok text' → Plan.parse text' = .ok p' →
          p'.resourceChanges = before ++ new :: after →
          ∃ a', explainPlan fs' c now' r = .ok a' ∧
            a'.risks.filter (fun f => f.path? ≠ some old.address) =
              a.risks.filter (fun f => f.path? ≠ some old.address)) ∧
      a.entries = ((r.select p).filter (fun s => s.action ≠ .noOp)).map
        (fun s => ⟨s.resourceType, s.name, s.action, r.planFile, s.address⟩) ∧
      a.summary =
        { adds := p.resourceChanges.countP (fun change => .create ∈ change.change.actions)
          changes := p.resourceChanges.countP (fun change => .update ∈ change.change.actions)
          destroys := p.resourceChanges.countP (fun change => .delete ∈ change.change.actions)
          totalResources := p.resourceChanges.length } := by
  obtain ⟨text, p, run, read, parsed, resolved, rfl⟩ := (explainPlan_eq_ok_iff fs c now r a).mp made
  obtain ⟨known, built⟩ := (c.policyRun_eq_ok_iff r.policySet run).mp resolved
  obtain ⟨v, _, valid⟩ := (Plan.parse_eq_ok_iff text p).mp parsed
  have distinct := r.addresses_select_nodup (Plan.addresses_nodup valid)
  have keyed : ∀ s ∈ r.select p, ∀ f ∈ run.risksOf s, f.path? = some s.address :=
    fun s _ f => PolicyRun.path_of_mem_risksOf built
  have own : ∀ s ∈ r.select p,
      ((r.select p).flatMap run.risksOf).filter (fun f => f.path? = some s.address) = run.risksOf s :=
    fun s => filter_flatMap_of_keys distinct keyed
  refine ⟨text, p, run.policy, run.engine, read, parsed, known, built, r.select_eq p, ?_⟩
  rw [PlanRequest.risks_audit]
  refine ⟨fun s selected => ?_, fun f member => ?_, PlanRequest.risks_pairwise built distinct, ?_, ?_, ?_, ?_⟩
  · rw [own s selected, PolicyRun.risksOf_eq]
    rfl
  · obtain ⟨s, selected, found⟩ := List.mem_flatMap.mp member
    exact ⟨s, selected, keyed s selected f found⟩
  · exact (List.flatMap_congr own).symm
  · intro before old new after listed same fs' now' text' p' read' parsed' replaced
    refine ⟨_, (explainPlan_eq_ok_iff fs' c now' r _).mpr ⟨text', p', run, read', parsed', resolved, rfl⟩, ?_⟩
    rw [PlanRequest.risks_audit, r.risks_without built listed, ← same, r.risks_without built replaced]
  · refine congrArg (List.map (PlanEntry.ofResource r.planFile)) (List.filter_congr fun s _ => ?_)
    rw [Bool.eq_iff_iff, bne_iff_ne, decide_eq_true_iff]
  · simp only [PlanRequest.audit, PlanAudit.withReport, Plan.summary, Plan.countOf, Plan.Change.has, List.contains_eq_mem]

/-! ### The risks of two buckets -/

/-- The start of the text of a plan, up to its resource changes. -/
def planHead : String := "\x7b\"format_version\":\"1\",\"terraform_version\":\"1\",\"resource_changes\":["

/-- The text of a plan with some resource changes. -/
def planText (changes : String) : String := planHead ++ changes ++ "]\x7d"

theorem toList_planText (changes : String) :
    (planText changes).toList = planHead.toList ++ changes.toList ++ [']', '\x7d'] :=
  String.toList_append.trans (congrArg₂ (· ++ ·) String.toList_append rfl)

/-- The file system in which every file holds a text. -/
def FileSystem.ofText (text : String) : FileSystem := ⟨fun _ => .ok (.file (.ok text)), none⟩

/-- The document of a plan with some resource changes. -/
def planDocument (changes : List Value) : Value :=
  .object [("format_version", .string "1"), ("resource_changes", .array changes), ("terraform_version", .string "1")]

/-- The plan with some resource changes. -/
def planOf (changes : List Plan.ResourceChange) : Plan := ⟨"1", "1", none, none, changes, none, none⟩

/-- The text of a resource change. -/
def changeText (name type provider change : String) : String :=
  "\x7b\"address\":\"" ++ name ++ "\",\"mode\":\"managed\",\"type\":\"" ++ type ++ "\",\"name\":\"" ++ name ++
    "\",\"provider_name\":\"" ++ provider ++ "\",\"change\":" ++ change ++ "\x7d"

theorem toList_changeText (name type provider change : String) :
    (changeText name type provider change).toList =
      "\x7b\"address\":\"".toList ++ name.toList ++ "\",\"mode\":\"managed\",\"type\":\"".toList ++ type.toList ++
        "\",\"name\":\"".toList ++ name.toList ++ "\",\"provider_name\":\"".toList ++ provider.toList ++
        "\",\"change\":".toList ++ change.toList ++ "\x7d".toList := by
  unfold changeText
  repeat rewrite [String.toList_append]
  rfl

/-- The document of a resource change. -/
def changeDocument (name type provider : String) (change : Value) : Value :=
  .object
    [("address", .string name), ("change", change), ("mode", .string "managed"), ("name", .string name),
      ("provider_name", .string provider), ("type", .string type)]

/-- The text of the creation of a public bucket. -/
def publicText : String :=
  changeText "b" "aws_s3_bucket" "aws" "\x7b\"actions\":[\"create\"],\"after\":\x7b\"acl\":\"public-read\"\x7d\x7d"

/-- The text of the creation of a private bucket. -/
def privateText : String :=
  changeText "c" "aws_s3_bucket" "aws" "\x7b\"actions\":[\"create\"],\"after\":\x7b\"acl\":\"private\"\x7d\x7d"

/-- The state of a bucket with an access list. -/
def bucketState (acl : String) : Value := .object [("acl", .string acl)]

/-- The document of the creation of such a bucket. -/
def bucketDocument (name acl : String) : Value :=
  changeDocument name "aws_s3_bucket" "aws"
    (.object [("actions", .array [.string "create"]), ("after", bucketState acl)])

/-- The creation of such a bucket. -/
def bucketChange (name acl : String) : Plan.ResourceChange :=
  ⟨name, none, .managed, "aws_s3_bucket", name, "aws", ⟨[.create], none, some (bucketState acl), none, none, none⟩⟩

/-- The target of such a bucket. -/
def bucketTarget (name acl : String) : Target := ⟨bucketState acl, "aws_s3_bucket", name, some name⟩

set_option maxRecDepth 4000 in
theorem parse_buckets :
    Json.parse (planText (publicText ++ "," ++ privateText)) =
      .ok (planDocument [bucketDocument "b" "public-read", bucketDocument "c" "private"]) := by
  rewrite [Json.parse, toList_planText, String.toList_append, String.toList_append, publicText, privateText,
    toList_changeText, toList_changeText]
  cbv

/-- The risks of two new buckets are found at the address of each. -/
theorem explainPlan_attributes_risks_bucket :
    ∃ a, explainPlan (.ofText (planText (publicText ++ "," ++ privateText))) .default "noon"
        ⟨".", none, some .aws, none, none⟩ = .ok a ∧
      (a.risks.filter (fun f => f.path? = some "b")).map Finding.ruleId =
        ["storage-public-access", "storage-no-encryption", "storage-no-versioning"] ∧
      (a.risks.filter (fun f => f.path? = some "c")).map Finding.ruleId =
        ["storage-no-encryption", "storage-no-versioning"] := by
  let plan : Plan := planOf [bucketChange "b" "public-read", bucketChange "c" "private"]
  have read := (Plan.parse_eq_ok_iff _ plan).mpr ⟨_, parse_buckets, rfl⟩
  obtain ⟨engine, built, slots⟩ := Config.default.basePolicy.exists_engine
  have resolved : Config.default.policyRun none = .ok ⟨Config.default.basePolicy, engine⟩ :=
    (Config.policyRun_eq_ok_iff _ _ _).mpr ⟨rfl, built⟩
  have made := (explainPlan_eq_ok_iff (.ofText _) .default "noon" ⟨".", none, some .aws, none, none⟩ _).mpr
    ⟨_, plan, _, rfl, read, resolved, rfl⟩
  refine ⟨_, made, ?_⟩
  obtain ⟨_, p, policy, engine', held, read', known, built', selects, own, _⟩ :=
    explainPlan_attributes_risks _ _ _ _ _ made
  cases held
  cases read.symm.trans read'
  cases known
  cases built.symm.trans built'
  have reported (t : Target) := PolicyRun.report_of_slots slots t
  have first := own (Plan.Resource.ofChange (bucketChange "b" "public-read"))
    (selects ▸ List.mem_filter.mpr ⟨List.mem_cons_self, by decide +kernel⟩)
  have second := own (Plan.Resource.ofChange (bucketChange "c" "private"))
    (selects ▸ List.mem_filter.mpr ⟨List.mem_cons_of_mem _ List.mem_cons_self, by decide +kernel⟩)
  constructor
  · refine (congrArg (List.map Finding.ruleId) (first.trans (reported (bucketTarget "b" "public-read")))).trans ?_
    decide +kernel
  · refine (congrArg (List.map Finding.ruleId) (second.trans (reported (bucketTarget "c" "private")))).trans ?_
    decide +kernel

end InfraAudit
