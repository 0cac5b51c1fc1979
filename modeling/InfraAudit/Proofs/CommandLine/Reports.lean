import InfraAudit.CommandLine.Run
import InfraAudit.Files.Tree
import InfraAudit.Proofs.Audit.Times

/-!
What audits print and how they exit. Both kinds of audits come down to a view and a value
(`Finished`), from which every format and the status are made (`run_eq`): the body in the
value is what the report is in Markdown, and the status looks at the findings that the value
lists. These are what the policy reports of all that is found on the targets of the audit
(`findings_finish`). At another time only the value is another one (`exists_finish`).
-/
namespace InfraAudit

open Record

namespace CommandLine

/-! ### Audits that are asked for -/

/-- A request for an audit of either kind. -/
inductive AuditRequest where
  | plan (request : PlanRequest)
  | manifests (request : ClusterRequest)

/-- What an audit that was made shows. -/
structure Finished where
  view : Report.View
  /-- The audit as a value. -/
  value : Value

namespace AuditRequest

/-- The command for an audit. -/
def command (a : AuditRequest) (o : Output) : Command :=
  match a with
  | .plan r => .explainPlan r o
  | .manifests r => .validateManifests r o

/-- The directory whose configuration counts. -/
def directory? : AuditRequest → Option String
  | .plan r => some r.workspace
  | .manifests r => r.manifestsDir.or r.helmChart

/-- The policy set that is asked for. -/
def policySet : AuditRequest → Option String
  | .plan r => r.policySet
  | .manifests r => r.policySet

/-- The key of the findings in the value of an audit. -/
def findingsKey : AuditRequest → String
  | .plan _ => "risks"
  | .manifests _ => "findings"

/-- The key of the report in the value of an audit. -/
def bodyKey : AuditRequest → String
  | .plan _ => "evidenceMd"
  | .manifests _ => "reportMd"

/-- Makes an audit at a time. -/
def finish (fs : FileSystem) (c : Config) (now : String) : AuditRequest → Except AuditError Finished
  | .plan r => (explainPlan fs c now r).map fun a => ⟨a.view, a.encode⟩
  | .manifests r => (validateManifests fs c now r).map fun a => ⟨a.view, a.encode⟩

/-- The targets of an audit: the planned states of the resources that are selected, or the
    resources in the files that can be read. -/
def targets (fs : FileSystem) : AuditRequest → List Target
  | .plan r =>
    match fs.readText r.planFile with
    | .ok text =>
      match Plan.parse text with
      | .ok p => (r.select p).filterMap Plan.Resource.target?
      | .error _ => []
    | .error _ => []
  | .manifests r =>
    (r.files fs).flatMap fun f =>
      match f.content with
      | .ok text => (Manifest.parse text f.format).resources.map (Cluster.Resource.target f.path)
      | .error _ => []

end AuditRequest

/-- A value is a finding that is at least as severe as a threshold. -/
def Reaches (threshold : Severity) (v : Value) : Prop :=
  ∃ severity, (v.field? "severity").map Severity.decode = some (.ok severity) ∧ threshold ≤ severity

/-! ### Runs of audits -/

theorem run_eq (s : Surroundings) (config : Option String) (a : AuditRequest) (o : Output) :
    run s ⟨config, a.command o⟩ =
      (do
        let c ← (s.files.loadConfig config a.directory?).mapError .config
        let made ← a.finish s.files c s.now
        return ⟨Report.render (o.format.getD c.reportFormat) s.color made.view made.value,
          exitStatus made.view.findings o.failOn⟩) := by
  cases a with
  | plan r =>
    refine bind_congr fun c => ?_
    rw [AuditRequest.finish]
    cases explainPlan s.files c s.now r <;> rfl
  | manifests r =>
    refine bind_congr fun c => ?_
    rw [AuditRequest.finish]
    cases validateManifests s.files c s.now r <;> rfl

/-- A run ends well if a configuration is found and the audit is made. -/
theorem run_eq_ok_iff (s : Surroundings) (config : Option String) (a : AuditRequest) (o : Output) (outcome : Outcome) :
    run s ⟨config, a.command o⟩ = .ok outcome ↔
      ∃ c made, s.files.loadConfig config a.directory? = .ok c ∧ a.finish s.files c s.now = .ok made ∧
        outcome = ⟨Report.render (o.format.getD c.reportFormat) s.color made.view made.value,
          exitStatus made.view.findings o.failOn⟩ := by
  simp only [run_eq, bind_eq_ok_iff, mapError_eq_ok_iff, pure, Except.pure, Except.ok.injEq, exists_and_left,
    eq_comm (a := outcome)]

theorem map_eq_ok_iff {ε α β : Type} (g : α → β) (x : Except ε α) (b : β) :
    x.map g = .ok b ↔ ∃ a, x = .ok a ∧ g a = b := by
  cases x with
  | error e => exact iff_of_false (by rintro ⟨⟩) (by rintro ⟨_, ⟨⟩, _⟩)
  | ok a => simp [Except.map]

/-! ### Values of audits -/

section
variable {α : Type} {name key : String} {encode : α → Value}

theorem lookup_fieldIfSome_of_ne (other : key ≠ name) (o : Option α) :
    (fieldIfSome name encode o).lookup key = none := by
  cases o with
  | none => rfl
  | some x => rw [fieldIfSome, List.lookup_cons, beq_false_of_ne other, List.lookup_nil]

theorem lookup_fieldUnlessEmpty_of_ne (other : key ≠ name) (items : List α) :
    (fieldUnlessEmpty name encode items).lookup key = none := by
  rw [fieldUnlessEmpty]
  split
  · rfl
  · rw [List.lookup_cons, beq_false_of_ne other, List.lookup_nil]

end

section
variable {a : AuditRequest} {fs : FileSystem} {c : Config} {now : String} {made : Finished}

/-- An audit that is made at some time is made at any other one, and shown in the same way. -/
theorem exists_finish (finished : a.finish fs c now = .ok made) :
    ∃ value : String → Value, ∀ now', a.finish fs c now' = .ok ⟨made.view, value now'⟩ := by
  cases a with
  | plan r =>
    obtain ⟨audit, explained, rfl⟩ := (map_eq_ok_iff _ _ _).mp finished
    refine ⟨fun now' => (audit.madeAt now').encode, fun now' => ?_⟩
    rw [AuditRequest.finish, explainPlan_madeAt fs c now now', explained]
    rfl
  | manifests r =>
    obtain ⟨audit, validated, rfl⟩ := (map_eq_ok_iff _ _ _).mp finished
    refine ⟨fun now' => (audit.madeAt now').encode, fun now' => ?_⟩
    rw [AuditRequest.finish, validateManifests_madeAt fs c now now', validated]
    rfl

/-- The report in the value of an audit is the one in Markdown. -/
theorem fieldStr?_value_bodyKey (finished : a.finish fs c now = .ok made) :
    made.value.fieldStr? a.bodyKey = some (Report.Markdown.render made.view) := by
  cases a with
  | plan r =>
    obtain ⟨audit, explained, rfl⟩ := (map_eq_ok_iff _ _ _).mp finished
    have held : audit.encode.field? "evidenceMd" = some (.string audit.evidence) := by
      simp [PlanAudit.encode, Value.field?, List.lookup_append, List.lookup_cons, lookup_fieldIfSome_of_ne,
        lookup_fieldUnlessEmpty_of_ne]
    rw [evidence_of_explainPlan explained] at held
    exact congrArg (Option.bind · Value.str?) held
  | manifests r =>
    obtain ⟨audit, validated, rfl⟩ := (map_eq_ok_iff _ _ _).mp finished
    have held : audit.encode.field? "reportMd" = some (.string audit.report) := by
      simp [ClusterAudit.encode, Value.field?, List.lookup_append, List.lookup_cons, lookup_fieldUnlessEmpty_of_ne]
    rw [report_of_validateManifests validated] at held
    exact congrArg (Option.bind · Value.str?) held

/-- The value of an audit lists the findings that the report shows. -/
theorem entries_value_findingsKey (finished : a.finish fs c now = .ok made) :
    made.value.entries a.findingsKey = made.view.findings.map Finding.encode := by
  cases a with
  | plan r =>
    obtain ⟨audit, _, rfl⟩ := (map_eq_ok_iff _ _ _).mp finished
    rfl
  | manifests r =>
    obtain ⟨audit, _, rfl⟩ := (map_eq_ok_iff _ _ _).mp finished
    rfl

end

theorem reaches_encode_iff (threshold : Severity) (f : Finding) :
    Reaches threshold f.encode ↔ threshold ≤ f.severity := by
  have held : f.encode.field? "severity" = some f.severity.encode := rfl
  simp [Reaches, held]

/-! ### Findings of audits -/

/-- An audit shows what its policy reports on its targets. -/
theorem findings_finish {a : AuditRequest} {fs : FileSystem} {c : Config} {now : String} {made : Finished}
    (finished : a.finish fs c now = .ok made) :
    ∃ policyRun, c.policyRun a.policySet = .ok policyRun ∧
      made.view.findings = (policyRun.evaluate (a.targets fs)).findings := by
  cases a with
  | plan r =>
    obtain ⟨audit, explained, rfl⟩ := (map_eq_ok_iff _ _ _).mp finished
    obtain ⟨text, p, policyRun, read, parsed, resolved, rfl⟩ := (explainPlan_eq_ok_iff ..).mp explained
    have targets : (AuditRequest.plan r).targets fs = (r.select p).filterMap Plan.Resource.target? := by
      simp only [AuditRequest.targets, read, parsed]
    exact ⟨policyRun, resolved, by rw [targets]; rfl⟩
  | manifests r =>
    obtain ⟨audit, validated, rfl⟩ := (map_eq_ok_iff _ _ _).mp finished
    obtain ⟨_, policyRun, resolved, joins, _⟩ := (validateManifests_eq_ok_iff_joins ..).mp validated
    refine ⟨policyRun, resolved, ?_⟩
    have first : (ClusterResult.notes r.values).findings = [] := rfl
    rw [PolicyRun.findings_evaluate, AuditRequest.targets, List.flatMap_assoc]
    refine joins.findings.trans ?_
    rw [first, List.nil_append, List.flatMap_map]
    -- Targets and findings are compared file by file; one that cannot be read has neither.
    refine List.flatMap_congr fun f _ => ?_
    cases content : f.content with
    | error e =>
      rw [ManifestFile.audit_unreadable content]
      rfl
    | ok text =>
      rw [ManifestFile.audit_readable content]
      exact policyRun.findings_evaluate _

/-! ### Statuses -/

theorem exitStatus_eq_two_iff (findings : List Finding) (failOn : Option Severity) :
    exitStatus findings failOn = 2 ↔ ∃ threshold, failOn = some threshold ∧ ∃ f ∈ findings, threshold ≤ f.severity := by
  cases failOn with
  | none => exact iff_of_false (by rintro ⟨⟩) (by rintro ⟨_, ⟨⟩, _⟩)
  | some threshold => simp [exitStatus, thresholdExceeded]

theorem exitStatus_eq_two_or_zero (findings : List Finding) (failOn : Option Severity) :
    exitStatus findings failOn = 2 ∨ exitStatus findings failOn = 0 := by
  unfold exitStatus
  split
  · exact .inr rfl
  · split
    · exact .inl rfl
    · exact .inr rfl

/-- What is too severe for a threshold is so for a lower one. -/
theorem exitStatus_of_le {findings : List Finding} {lower higher : Severity} (below : lower ≤ higher)
    (exceeded : exitStatus findings (some higher) = 2) : exitStatus findings (some lower) = 2 := by
  obtain ⟨_, ⟨⟩, f, shown, reaches⟩ := (exitStatus_eq_two_iff ..).mp exceeded
  exact (exitStatus_eq_two_iff ..).mpr ⟨lower, rfl, f, shown, Nat.le_trans below reaches⟩

/-- How the runs for an audit end: what they print in Markdown, what they print as JSON at
    some time, and the status for each threshold, whatever the format. -/
structure Ends (files : FileSystem) (config : Option String) (a : AuditRequest) (body : String)
    (value : String → Value) (status : Option Severity → Nat) : Prop where
  markdown : ∀ now color failOn,
    run ⟨files, now, color⟩ ⟨config, a.command ⟨some .markdown, failOn⟩⟩ = .ok ⟨body, status failOn⟩
  json : ∀ now color failOn,
    run ⟨files, now, color⟩ ⟨config, a.command ⟨some .json, failOn⟩⟩ = .ok ⟨(value now).pretty, status failOn⟩
  any : ∀ now color format failOn, ∃ stdout,
    run ⟨files, now, color⟩ ⟨config, a.command ⟨format, failOn⟩⟩ = .ok ⟨stdout, status failOn⟩

theorem ends_of_finish {files : FileSystem} {config : Option String} {a : AuditRequest} {c : Config}
    {view : Report.View} {value : String → Value} (configured : files.loadConfig config a.directory? = .ok c)
    (finished : ∀ now, a.finish files c now = .ok ⟨view, value now⟩) :
    Ends files config a (Report.Markdown.render view) value (exitStatus view.findings) := by
  have ran (now : String) (color : Bool) (o : Output) := (run_eq_ok_iff ⟨files, now, color⟩ config a o _).mpr
    ⟨c, _, configured, finished now, rfl⟩
  exact ⟨fun now color failOn => ran now color ⟨some .markdown, failOn⟩,
    fun now color failOn => ran now color ⟨some .json, failOn⟩,
    fun now color format failOn => ⟨_, ran now color ⟨format, failOn⟩⟩⟩

/-- The reports of an audit agree. Where any run for it ends well, all of them do, over the
    same files. What they print in Markdown is the body in the value that they print as
    JSON, at any time. The status is the same in any format and for a lower threshold no
    less; it tells whether a finding in that value reaches the threshold, and so whether
    some finding does that the policy does not hide. -/
theorem audit_reports_agree (s : Surroundings) (config : Option String) (a : AuditRequest) (o : Output)
    (outcome : Outcome) (ran : run s ⟨config, a.command o⟩ = .ok outcome) :
    ∃ c policyRun body value status,
      s.files.loadConfig config a.directory? = .ok c ∧ c.policyRun a.policySet = .ok policyRun ∧
      Ends s.files config a body value status ∧
      (∀ now, (value now).fieldStr? a.bodyKey = some body) ∧
      (∀ failOn, status failOn = 2 ∨ status failOn = 0) ∧
      (∀ now failOn, status failOn = 2 ↔
        ∃ threshold, failOn = some threshold ∧ ∃ v ∈ (value now).entries a.findingsKey, Reaches threshold v) ∧
      (∀ lower higher, lower ≤ higher → status (some higher) = 2 → status (some lower) = 2) ∧
      (∀ failOn, status failOn = 2 ↔
        ∃ threshold, failOn = some threshold ∧
          ∃ f ∈ (policyRun.engine.evaluateMany (a.targets s.files)).findings,
            policyRun.policy.minSeverity ≤ f.severity ∧ threshold ≤ f.severity) := by
  obtain ⟨c, made, configured, finished, _⟩ := (run_eq_ok_iff ..).mp ran
  obtain ⟨policyRun, resolved, findings⟩ := findings_finish finished
  obtain ⟨value, timed⟩ := exists_finish finished
  refine ⟨c, policyRun, _, value, _, configured, resolved, ends_of_finish configured timed,
    fun now => fieldStr?_value_bodyKey (timed now), exitStatus_eq_two_or_zero _, ?_, fun _ _ => exitStatus_of_le, ?_⟩
  · intro now failOn
    simp only [exitStatus_eq_two_iff, entries_value_findingsKey (timed now), List.mem_map, exists_exists_and_eq_and,
      reaches_encode_iff]
  · intro failOn
    simp only [exitStatus_eq_two_iff, findings, PolicyRun.evaluate, Policy.report, List.mem_filter,
      Policy.allowsFinding, decide_eq_true_eq, and_assoc]

/-- The text of a pod. -/
def podText : String :=
  "\x7b\"apiVersion\":\"v1\",\"kind\":\"Pod\",\"metadata\":\x7b\"name\":\"app\"\x7d," ++
    "\"spec\":\x7b\"containers\":[\x7b\"name\":\"web\"\x7d]\x7d\x7d"

/-- What the text says. -/
def podDocument : Value :=
  .object
    [("apiVersion", .string "v1"), ("kind", .string "Pod"), ("metadata", .object [("name", .string "app")]),
      ("spec", .object [("containers", .array [.object [("name", .string "web")]])])]

/-- A directory with that pod. -/
def podFiles : FileSystem :=
  FileTree.toFileSystem (.directory [("k8s", .directory [("pod.json", .file (.ok podText))])]) none

/-- The audit of that directory. -/
def podAudit : AuditRequest := .manifests ⟨some "k8s", none, [], none⟩

theorem parse_podText : Json.parse podText = .ok podDocument := by
  have split : podText.toList = _ := String.toList_append
  rewrite [Json.parse, split]
  cbv

theorem targets_podAudit : podAudit.targets podFiles = [⟨podDocument, "Pod", "app", some "k8s/pod.json"⟩] := by
  have files : ClusterRequest.files ⟨some "k8s", none, [], none⟩ podFiles =
      [⟨"k8s/pod.json", .json, .ok podText⟩] := rfl
  have resources : (Manifest.parse podText .json).resources.map (Cluster.Resource.target "k8s/pod.json") =
      [⟨podDocument, "Pod", "app", some "k8s/pod.json"⟩] := by
    rw [Manifest.parse, Manifest.parseJson, parse_podText]
    rfl
  rw [podAudit, AuditRequest.targets, files, List.flatMap_singleton]
  exact resources

theorem reaches_podDocument_iff (threshold : Severity) :
    (∃ f ∈ (Rule.evaluateAll Config.default.basePolicy.keptRules
        ⟨podDocument, "Pod", "app", some "k8s/pod.json"⟩).findings,
      Config.default.basePolicy.minSeverity ≤ f.severity ∧ threshold ≤ f.severity) ↔ threshold ≤ .high := by
  cases threshold <;> decide +kernel

/-- The pod is reported in both formats, and is too severe for one of two thresholds. -/
theorem audit_reports_agree_pod :
    ∃ body value,
      run ⟨podFiles, "noon", true⟩ ⟨none, podAudit.command ⟨some .markdown, some .high⟩⟩ = .ok ⟨body, 2⟩ ∧
      run ⟨podFiles, "night", false⟩ ⟨none, podAudit.command ⟨some .json, some .crit⟩⟩ =
        .ok ⟨Value.pretty value, 0⟩ ∧
      value.fieldStr? "reportMd" = some body := by
  obtain ⟨engine, built, slots⟩ := Config.default.basePolicy.exists_engine
  have resolved : Config.default.policyRun none = .ok ⟨Config.default.basePolicy, engine⟩ :=
    (Config.policyRun_eq_ok_iff _ _ _).mpr ⟨rfl, built⟩
  have admitted : ClusterRequest.Admitted ⟨some "k8s", none, [], none⟩ podFiles :=
    ⟨List.cons_ne_nil _ _, by decide⟩
  have configured : podFiles.loadConfig none podAudit.directory? = .ok .default := rfl
  obtain ⟨made, finished⟩ : ∃ made, podAudit.finish podFiles .default "noon" = .ok made := by
    rw [podAudit, AuditRequest.finish, (validateManifests_eq_ok_iff ..).mpr ⟨admitted, _, resolved, rfl⟩]
    exact ⟨_, rfl⟩
  have ran := (run_eq_ok_iff ⟨podFiles, "noon", true⟩ none podAudit ⟨none, none⟩ _).mpr
    ⟨_, _, configured, finished, rfl⟩
  obtain ⟨c, policyRun, body, value, status, configured', resolved', ends, held, twoOrZero, _, _, exceeded⟩ :=
    audit_reports_agree _ _ _ _ _ ran
  cases configured.symm.trans configured'
  cases resolved.symm.trans resolved'
  have two (threshold : Severity) : status (some threshold) = 2 ↔ threshold ≤ .high := by
    rw [exceeded, targets_podAudit, RuleEngine.findings_evaluateMany, List.flatMap_singleton, RuleEngine.evaluate_eq,
      slots, ← reaches_podDocument_iff]
    simp
  have high : status (some .high) = 2 := (two .high).mpr (by decide)
  have crit : status (some .crit) = 0 := (twoOrZero _).resolve_left (mt (two .crit).mp (by decide))
  exact ⟨body, value "night", high ▸ ends.markdown _ _ _, crit ▸ ends.json _ _ _, held _⟩

end CommandLine

end InfraAudit
