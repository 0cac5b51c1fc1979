import InfraAudit.Audit.Cluster
import InfraAudit.Proofs.Policy.Reports
import Mathlib.Algebra.Ring.Nat

/-!
What is found in manifests is made of what is found in each file, one after another. A
scan only adds to what it has (`ClusterScan.addFile_eq`), so that scanning more files adds
what each of them gives alone (`ClusterScan.joins_foldl`), and the findings that the
policy does not report can be left out at the end as well as file by file. An audit is
what was found with the report on it and the time (`ClusterResult.audit_eq_iff`).
-/
namespace InfraAudit

/-! ### Scans -/

namespace ClusterScan

instance : Append ClusterScan where
  append a b := ⟨a.evaluation ++ b.evaluation, a.diagnostics ++ b.diagnostics, a.resources + b.resources⟩

/-- What a file gives to a scan. -/
def ofFile (engine : RuleEngine) (f : ManifestFile) : ClusterScan :=
  match f.content with
  | .error e => ⟨.empty, [unreadableNote f.path e], 0⟩
  | .ok text =>
    let result := Manifest.parse text f.format
    { evaluation := engine.evaluateMany (result.resources.map (Cluster.Resource.target f.path))
      diagnostics := result.diagnostics.map (·.withFile f.path)
      resources := result.resources.length }

theorem foldl_addResource (engine : RuleEngine) (path : String) (s : ClusterScan) (rs : List Cluster.Resource) :
    rs.foldl (addResource engine path) s =
      { s with
        evaluation := s.evaluation ++ engine.evaluateMany (rs.map (Cluster.Resource.target path))
        resources := s.resources + rs.length } := by
  induction rs generalizing s with
  | nil => exact congrArg (ClusterScan.mk · _ _) (Evaluation.append_empty _).symm
  | cons r rest ih =>
    rw [List.foldl_cons, ih, List.map_cons, RuleEngine.evaluateMany_cons, ← Evaluation.append_assoc,
      List.length_cons, Nat.add_comm rest.length, ← Nat.add_assoc]
    rfl

/-- What one file preserves: all that was collected before it. -/
theorem addFile_eq (engine : RuleEngine) (s : ClusterScan) (f : ManifestFile) :
    addFile engine s f = s ++ ofFile engine f := by
  unfold addFile ofFile
  cases f.content with
  | error e => exact congrArg (ClusterScan.mk · _ _) (Evaluation.append_empty _).symm
  | ok text => exact foldl_addResource ..

end ClusterScan

/-! ### What is found in files -/

/-- What is found is something first and then some parts, one after another. -/
structure ClusterResult.Joins (a first : ClusterResult) (parts : List ClusterResult) : Prop where
  findings : a.findings = first.findings ++ parts.flatMap ClusterResult.findings
  diagnostics : a.diagnostics = first.diagnostics ++ parts.flatMap ClusterResult.diagnostics
  ruleFailures : a.ruleFailures = first.ruleFailures ++ parts.flatMap ClusterResult.ruleFailures
  resources : a.resourcesAnalyzed = first.resourcesAnalyzed + (parts.map ClusterResult.resourcesAnalyzed).sum

/-- What is found in a file alone. -/
def ManifestFile.audit (run : PolicyRun) (f : ManifestFile) : ClusterResult := auditFiles run [] [f]

/-- What is found in no file, with notes about files of values. -/
def ClusterResult.notes (values : List String) : ClusterResult := ⟨[], values.map valuesNote, [], 0⟩

theorem ManifestFile.audit_eq (run : PolicyRun) (f : ManifestFile) :
    f.audit run = (ClusterScan.ofFile run.engine f).finish run.policy := by
  have start : ⟨.empty, [], 0⟩ ++ ClusterScan.ofFile run.engine f = ClusterScan.ofFile run.engine f :=
    congrArg (ClusterScan.mk _ _) (Nat.zero_add _)
  rw [audit, auditFiles, List.foldl_cons, ClusterScan.addFile_eq, List.map_nil, start]
  rfl

/-- A scan of files finds what was found before it, followed by what is found in each
    file. -/
theorem ClusterScan.joins_foldl (run : PolicyRun) (s : ClusterScan) (files : List ManifestFile) :
    ((files.foldl (addFile run.engine) s).finish run.policy).Joins (s.finish run.policy)
      (files.map (ManifestFile.audit run)) := by
  induction files generalizing s with
  | nil => exact ⟨(List.append_nil _).symm, (List.append_nil _).symm, (List.append_nil _).symm, rfl⟩
  | cons f rest ih =>
    have later := ih (s ++ ofFile run.engine f)
    rw [List.foldl_cons, addFile_eq]
    -- Findings are kept or left out one by one.
    have step : (s ++ ofFile run.engine f).finish run.policy =
        ⟨(s.finish run.policy).findings ++ (f.audit run).findings,
          (s.finish run.policy).diagnostics ++ (f.audit run).diagnostics,
          (s.finish run.policy).ruleFailures ++ (f.audit run).ruleFailures,
          (s.finish run.policy).resourcesAnalyzed + (f.audit run).resourcesAnalyzed⟩ := by
      rw [ManifestFile.audit_eq]
      exact congrArg (ClusterResult.mk · _ _ _) (List.filter_append ..)
    rw [step] at later
    obtain ⟨findings, diagnostics, ruleFailures, resources⟩ := later
    constructor
    · rw [findings, List.map_cons, List.flatMap_cons, List.append_assoc]
    · rw [diagnostics, List.map_cons, List.flatMap_cons, List.append_assoc]
    · rw [ruleFailures, List.map_cons, List.flatMap_cons, List.append_assoc]
    · rw [resources, List.map_cons, List.map_cons, List.sum_cons, Nat.add_assoc]

theorem auditFiles_joins (run : PolicyRun) (values : List String) (files : List ManifestFile) :
    (auditFiles run values files).Joins (.notes values) (files.map (ManifestFile.audit run)) :=
  ClusterScan.joins_foldl run ⟨.empty, values.map valuesNote, 0⟩ files

theorem ClusterResult.Joins.unique {a b first : ClusterResult} {parts : List ClusterResult}
    (left : a.Joins first parts) (right : b.Joins first parts) : a = b := by
  obtain ⟨findings, diagnostics, failures, resources⟩ := a
  obtain ⟨findings', diagnostics', failures', resources'⟩ := b
  obtain ⟨rfl, rfl, rfl, rfl⟩ := left
  obtain ⟨rfl, rfl, rfl, rfl⟩ := right
  rfl

namespace ManifestFile

variable {run : PolicyRun} {f : ManifestFile}

theorem audit_unreadable {e : FileError} (unreadable : f.content = .error e) :
    f.audit run = ⟨[], [unreadableNote f.path e], [], 0⟩ := by
  rw [audit_eq, ClusterScan.ofFile, unreadable]
  rfl

/-- What is found in a file with a text: what the policy reports on the resources in it. -/
def auditText (run : PolicyRun) (f : ManifestFile) (text : String) : ClusterResult :=
  let result := Manifest.parse text f.format
  let evaluation := run.evaluate (result.resources.map (Cluster.Resource.target f.path))
  { findings := evaluation.findings
    diagnostics := result.diagnostics.map (·.withFile f.path)
    ruleFailures := evaluation.failures
    resourcesAnalyzed := result.resources.length }

theorem audit_readable {text : String} (readable : f.content = .ok text) : f.audit run = f.auditText run text := by
  rw [audit_eq, ClusterScan.ofFile, readable]
  rfl

theorem path_of_mem_findings (made : run.policy.engine = .ok run.engine) {finding : Finding}
    (member : finding ∈ (f.audit run).findings) : finding.path? = some f.path := by
  cases read : f.content with
  | error e =>
    rw [audit_unreadable read] at member
    cases member
  | ok text =>
    rw [audit_readable read] at member
    have reported : finding ∈ (run.evaluate _).findings := member
    rw [PolicyRun.findings_evaluate] at reported
    obtain ⟨t, target, reported⟩ := List.mem_flatMap.mp reported
    obtain ⟨r, _, rfl⟩ := List.mem_map.mp target
    exact PolicyRun.path_of_mem made reported

theorem file_of_mem_diagnostics {d : Manifest.Diagnostic} (member : d ∈ (f.audit run).diagnostics) :
    d.file = some f.path := by
  cases read : f.content with
  | error e =>
    rw [audit_unreadable read] at member
    cases List.mem_singleton.mp member
    rfl
  | ok text =>
    rw [audit_readable read] at member
    obtain ⟨d, _, rfl⟩ := List.mem_map.mp member
    rfl

end ManifestFile

/-- An audit is what was found, with the report on it and the time at which it was made. -/
theorem ClusterResult.audit_eq_iff (found : ClusterResult) (now : String) (a : ClusterAudit) :
    found.audit now = a ↔
      a.toClusterResult = found ∧ a.report = Report.Markdown.render a.view ∧ a.analyzedAt = now := by
  constructor
  · rintro rfl
    exact ⟨rfl, ClusterAudit.report_withReport _, rfl⟩
  · obtain ⟨same, report, time⟩ := a
    rintro ⟨rfl, reported, rfl⟩
    exact congrArg (ClusterAudit.mk same · time) reported.symm

/-! ### Requests -/

namespace ClusterRequest

/-- The manifests that a request is about. -/
def files (r : ClusterRequest) (fs : FileSystem) : List ManifestFile := r.roots.flatMap fs.manifests

/-- A request names some directories, all of which are there. -/
structure Admitted (r : ClusterRequest) (fs : FileSystem) : Prop where
  named : r.roots ≠ []
  found : ∀ root ∈ r.roots, fs.hasDirectory root = true

theorem format_of_mem_files {r : ClusterRequest} {fs : FileSystem} {f : ManifestFile} (member : f ∈ r.files fs) :
    Manifest.Format.ofPath? f.path = some f.format := by
  obtain ⟨root, _, inside⟩ := List.mem_flatMap.mp member
  obtain ⟨file, _, made⟩ := List.mem_filterMap.mp inside
  obtain ⟨format, known, rfl⟩ := Option.map_eq_some_iff.mp made
  exact known

end ClusterRequest

theorem requireDirectory_eq_ok_iff (fs : FileSystem) (path : String) :
    fs.requireDirectory path = .ok () ↔ fs.hasDirectory path = true := by
  unfold FileSystem.requireDirectory
  cases fs.hasDirectory path with
  | true => exact iff_of_true rfl rfl
  | false => exact iff_of_false (by rintro ⟨⟩) Bool.false_ne_true

theorem forM_requireDirectory_eq_ok_iff (fs : FileSystem) (roots : List String) :
    roots.forM fs.requireDirectory = .ok () ↔ ∀ root ∈ roots, fs.hasDirectory root = true := by
  induction roots with
  | nil => exact iff_of_true rfl (fun root member => absurd member List.not_mem_nil)
  | cons root rest ih =>
    rw [List.forM, bind_eq_ok_iff, List.forall_mem_cons, ← ih, ← requireDirectory_eq_ok_iff]
    constructor
    · rintro ⟨⟨⟩, first, later⟩
      exact ⟨first, later⟩
    · rintro ⟨first, later⟩
      exact ⟨(), first, later⟩

theorem validateManifests_eq_ok_iff (fs : FileSystem) (c : Config) (now : String) (r : ClusterRequest)
    (a : ClusterAudit) :
    validateManifests fs c now r = .ok a ↔
      r.Admitted fs ∧ ∃ run, c.policyRun r.policySet = .ok run ∧
        (auditFiles run r.values (r.files fs)).audit now = a := by
  unfold validateManifests
  rw [bind_eq_ok_iff]
  by_cases none : r.roots = []
  · simp only [none, List.isEmpty_nil, if_true]
    exact iff_of_false (by rintro ⟨_, _, ⟨⟩⟩) (fun made => made.1.named none)
  · simp only [List.isEmpty_iff, if_neg none, bind_eq_ok_iff]
    constructor
    · rintro ⟨⟨⟩, found, run, made, audited⟩
      exact ⟨⟨none, (forM_requireDirectory_eq_ok_iff ..).mp found⟩, run, made, Except.ok.inj audited⟩
    · rintro ⟨⟨_, found⟩, run, made, audited⟩
      exact ⟨(), (forM_requireDirectory_eq_ok_iff ..).mpr found, run, made, congrArg Except.ok audited⟩

/-- The audits that are made, by their parts. -/
theorem validateManifests_eq_ok_iff_joins (fs : FileSystem) (c : Config) (now : String) (r : ClusterRequest)
    (a : ClusterAudit) :
    validateManifests fs c now r = .ok a ↔
      r.Admitted fs ∧ ∃ run, c.policyRun r.policySet = .ok run ∧
        a.Joins (.notes r.values) ((r.files fs).map (ManifestFile.audit run)) ∧
        a.report = Report.Markdown.render a.view ∧ a.analyzedAt = now := by
  simp only [validateManifests_eq_ok_iff, ClusterResult.audit_eq_iff]
  refine and_congr_right' (exists_congr fun run => and_congr_right' (and_congr_left' ?_))
  constructor
  · intro found
    rw [found]
    exact auditFiles_joins ..
  · intro joins
    exact joins.unique (auditFiles_joins ..)

/-! ### Replacing a file -/

/-- A file with other content if it has a path. -/
def ManifestFile.replace (path : String) (content : Except FileError String) (f : ManifestFile) : ManifestFile :=
  if f.path = path then { f with content } else f

/-- Parts that change leave what has other keys when all of them have one key, before
    and after. -/
theorem filter_flatMap_map {α β κ : Type} [DecidableEq κ] {keyOf : β → Option κ} {part : α → List β} {k : κ}
    {change : α → α} (xs : List α)
    (each : ∀ x, change x = x ∨ (∀ b ∈ part x, keyOf b = some k) ∧ ∀ b ∈ part (change x), keyOf b = some k) :
    ((xs.map change).flatMap part).filter (fun b => keyOf b ≠ some k) =
      (xs.flatMap part).filter (fun b => keyOf b ≠ some k) := by
  have none : ∀ bs : List β, (∀ b ∈ bs, keyOf b = some k) → bs.filter (fun b => keyOf b ≠ some k) = [] := by
    intro bs keyed
    exact List.filter_eq_nil_iff.mpr (fun b member => by simp [keyed b member])
  induction xs with
  | nil => rfl
  | cons x rest ih =>
    rw [List.map_cons, List.flatMap_cons, List.flatMap_cons, List.filter_append, List.filter_append, ih]
    rcases each x with same | ⟨old, new⟩
    · rw [same]
    · rw [none _ old, none _ new]

/-- The audit of a file that is replaced has the path of the file, before and after. -/
theorem ManifestFile.replace_keyed {β : Type} {keyOf : β → Option String} {part : ManifestFile → List β}
    (keyed : ∀ f, ∀ b ∈ part f, keyOf b = some f.path) (path : String) (content : Except FileError String)
    (f : ManifestFile) :
    f.replace path content = f ∨
      (∀ b ∈ part f, keyOf b = some path) ∧ ∀ b ∈ part (f.replace path content), keyOf b = some path := by
  unfold replace
  by_cases here : f.path = path
  · rw [if_pos here]
    exact .inr ⟨fun b member => (keyed _ b member).trans (congrArg some here),
      fun b member => (keyed _ b member).trans (congrArg some here)⟩
  · exact .inl (if_neg here)

/-- What is said about other paths than that of a replaced file stays. -/
theorem ClusterResult.Joins.agree {run : PolicyRun} (made : run.policy.engine = .ok run.engine)
    {a b first : ClusterResult} {files : List ManifestFile} {path : String} {content : Except FileError String}
    (left : a.Joins first (files.map (ManifestFile.audit run)))
    (right : b.Joins first ((files.map (ManifestFile.replace path content)).map (ManifestFile.audit run))) :
    a.findings.filter (fun x => x.path? ≠ some path) = b.findings.filter (fun x => x.path? ≠ some path) ∧
    a.diagnostics.filter (fun d => d.file ≠ some path) = b.diagnostics.filter (fun d => d.file ≠ some path) := by
  constructor
  · have keyed := ManifestFile.replace_keyed (fun _ _ => ManifestFile.path_of_mem_findings made) path content
    rw [left.findings, right.findings, List.filter_append, List.filter_append, List.flatMap_map, List.flatMap_map,
      filter_flatMap_map files keyed]
  · have keyed := ManifestFile.replace_keyed (fun f d => @ManifestFile.file_of_mem_diagnostics run f d) path content
    rw [left.diagnostics, right.diagnostics, List.filter_append, List.filter_append, List.flatMap_map,
      List.flatMap_map, filter_flatMap_map files keyed]

/-- An audit of manifests consists of what is found in each of its files alone, which is
    about that file only, and of the report on all this. A file with other content takes
    no part in what is said about the others. -/
theorem validateManifests_joins_files (fs : FileSystem) (c : Config) (now : String) (r : ClusterRequest) :
    (∀ a, validateManifests fs c now r = .ok a ↔
      r.Admitted fs ∧ ∃ run, c.policyRun r.policySet = .ok run ∧
        a.Joins (.notes r.values) ((r.files fs).map (ManifestFile.audit run)) ∧
        a.report = Report.Markdown.render a.view ∧ a.analyzedAt = now) ∧
    (∀ run, c.policyRun r.policySet = .ok run → ∀ f ∈ r.files fs,
      Manifest.Format.ofPath? f.path = some f.format ∧
      (∀ e, f.content = .error e → f.audit run = ⟨[], [unreadableNote f.path e], [], 0⟩) ∧
      (∀ text, f.content = .ok text → f.audit run = f.auditText run text) ∧
      (∀ finding ∈ (f.audit run).findings, finding.path? = some f.path) ∧
      (∀ d ∈ (f.audit run).diagnostics, d.file = some f.path)) ∧
    -- In another system, the file at a path has other content.
    (∀ fs' now' path content a, r.files fs' = (r.files fs).map (ManifestFile.replace path content) →
      r.Admitted fs' → validateManifests fs c now r = .ok a →
      ∃ b run, validateManifests fs' c now' r = .ok b ∧ c.policyRun r.policySet = .ok run ∧
        a.Joins (.notes r.values) ((r.files fs).map (ManifestFile.audit run)) ∧
        b.Joins (.notes r.values) ((r.files fs).map (fun f => (f.replace path content).audit run)) ∧
        a.findings.filter (fun x => x.path? ≠ some path) = b.findings.filter (fun x => x.path? ≠ some path) ∧
        a.diagnostics.filter (fun d => d.file ≠ some path) = b.diagnostics.filter (fun d => d.file ≠ some path)) := by
  refine ⟨validateManifests_eq_ok_iff_joins fs c now r, fun run made f member => ?_, ?_⟩
  · have engine := ((Config.policyRun_eq_ok_iff ..).mp made).2
    exact ⟨ClusterRequest.format_of_mem_files member, fun e => ManifestFile.audit_unreadable,
      fun text => ManifestFile.audit_readable, fun finding => ManifestFile.path_of_mem_findings engine,
      fun d => ManifestFile.file_of_mem_diagnostics⟩
  · intro fs' now' path content a files admitted audited
    obtain ⟨_, run, made, joins, _⟩ := (validateManifests_eq_ok_iff_joins ..).mp audited
    have engine := ((Config.policyRun_eq_ok_iff ..).mp made).2
    have audited' := (validateManifests_eq_ok_iff fs' c now' r _).mpr ⟨admitted, run, made, rfl⟩
    have joins' := auditFiles_joins run r.values (r.files fs')
    rw [files] at joins'
    have agree := joins.agree engine joins'
    rw [List.map_map] at joins'
    exact ⟨_, run, audited', made, joins, files ▸ joins', files ▸ agree⟩

end InfraAudit
