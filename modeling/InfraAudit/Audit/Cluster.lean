import InfraAudit.Audit.Policy
import InfraAudit.Report.Markdown

/-!
Audits of manifests.

Every manifest below the given directories is read and its resources are evaluated
by the rules of a policy. A file that cannot be read is noted, and the others are
not affected.
-/
namespace InfraAudit

open Record

/-- A request for the audit of manifests. -/
structure ClusterRequest where
  manifestsDir : Option String
  /-- The directory of a chart, whose templates are read as they are written. -/
  helmChart : Option String
  /-- Files of values, which are only noted since templates are not rendered. -/
  values : List String
  policySet : Option String
  deriving DecidableEq, Repr

namespace ClusterRequest

/-- The shape of a request. -/
def shape : Shape := ⟨"ValidateK8sInput", 4⟩

/-- Decodes a request. -/
def decode : Decoder ClusterRequest :=
  record shape fun s =>
    ClusterRequest.mk
      <$> s.field shape 0 "manifestsDir" (optional pathText) (.unset none)
      <*> s.field shape 1 "helmChart" (optional pathText) (.unset none)
      <*> s.field shape 2 "values" (list pathText) (.default [])
      <*> s.field shape 3 "policySet" (optional string) (.unset none)

/-- The directory in a chart that holds its templates. -/
def templatesDir : String := "templates"

/-- The directories whose manifests are read. -/
def roots (r : ClusterRequest) : List String :=
  r.manifestsDir.toList ++ (r.helmChart.map (Path.join · templatesDir)).toList

end ClusterRequest

/-- What is found in manifests. -/
structure ClusterResult where
  findings : List Finding
  diagnostics : List Manifest.Diagnostic
  ruleFailures : List RuleFailure
  resourcesAnalyzed : Nat
  deriving DecidableEq, Repr

/-- The audit of manifests. -/
structure ClusterAudit extends ClusterResult where
  /-- The report in Markdown. -/
  report : String
  /-- The time at which the audit was made, as it is written. -/
  analyzedAt : String
  deriving DecidableEq, Repr

namespace ClusterAudit

/-- What reports show of an audit. -/
def view (a : ClusterAudit) : Report.View :=
  { title := "Kubernetes manifests"
    summary :=
      [("Resources analyzed", toString a.resourcesAnalyzed),
        ("Findings", toString a.findings.length)]
    findings := a.findings
    ruleFailures := a.ruleFailures
    diagnostics := a.diagnostics
    analyses := []
    drift := none }

/-- Reports show neither the report that an audit carries nor its time. -/
theorem view_with (a : ClusterAudit) (report analyzedAt : String) :
    { a with report, analyzedAt }.view = a.view := rfl

/-- An audit that carries the report on itself. -/
def withReport (a : ClusterAudit) : ClusterAudit := { a with report := Report.Markdown.render a.view }

@[simp]
theorem view_withReport (a : ClusterAudit) : a.withReport.view = a.view := a.view_with ..

/-- The report that is carried is what the report on the audit is with it. -/
theorem report_withReport (a : ClusterAudit) : a.withReport.report = Report.Markdown.render a.withReport.view := by
  rw [view_withReport, withReport]

/-- An audit as a value. -/
def encode (a : ClusterAudit) : Value :=
  .object (
    [("findings", encodeList Finding.encode a.findings),
      ("parseDiagnostics", encodeList Manifest.Diagnostic.encode a.diagnostics)] ++
    fieldUnlessEmpty "ruleFailures" RuleFailure.encode a.ruleFailures ++
    [("resourcesAnalyzed", encodeNat a.resourcesAnalyzed),
      ("reportMd", .string a.report),
      ("analyzedAt", .string a.analyzedAt)])

end ClusterAudit

/-! ### Making audits -/

/-- The note about a file of values. -/
def valuesNote (path : String) : Manifest.Diagnostic :=
  ⟨some path, 0, none, "values file not applied; chart templates are checked unrendered"⟩

/-- The note about a file that cannot be read. -/
def unreadableNote (path : String) (e : FileError) : Manifest.Diagnostic :=
  ⟨some path, 0, none, "failed to read file: " ++ e.message⟩

/-- The target of a resource that was read from a file. -/
def Cluster.Resource.target (path : String) (r : Cluster.Resource) : Target :=
  { resource := r.raw, resourceType := r.kind, name := r.name, path := some path }

/-- What an audit of manifests has collected so far. All findings are kept until the
    end, when those that the policy does not report are left out. -/
structure ClusterScan where
  evaluation : Evaluation
  diagnostics : List Manifest.Diagnostic
  resources : Nat

namespace ClusterScan

/-- A scan after one more resource of a file. -/
def addResource (engine : RuleEngine) (path : String) (s : ClusterScan) (r : Cluster.Resource) : ClusterScan :=
  { s with evaluation := s.evaluation ++ engine.evaluate (r.target path), resources := s.resources + 1 }

/-- A scan after one more file. -/
def addFile (engine : RuleEngine) (s : ClusterScan) (f : ManifestFile) : ClusterScan :=
  match f.content with
  | .error e => { s with diagnostics := s.diagnostics ++ [unreadableNote f.path e] }
  | .ok text =>
    let result := Manifest.parse text f.format
    result.resources.foldl (addResource engine f.path)
      { s with diagnostics := s.diagnostics ++ result.diagnostics.map (·.withFile f.path) }

/-- What a scan has found in the end. -/
def finish (p : Policy) (s : ClusterScan) : ClusterResult :=
  let evaluation := p.report s.evaluation
  { findings := evaluation.findings
    diagnostics := s.diagnostics
    ruleFailures := evaluation.failures
    resourcesAnalyzed := s.resources }

end ClusterScan

/-- What is found in manifests by a policy, after notes about files of values. -/
def auditFiles (run : PolicyRun) (values : List String) (files : List ManifestFile) : ClusterResult :=
  (files.foldl (ClusterScan.addFile run.engine) ⟨.empty, values.map valuesNote, 0⟩).finish run.policy

/-- Checks that a directory is found at a path. -/
def FileSystem.requireDirectory (fs : FileSystem) (path : String) : Except AuditError Unit :=
  if fs.hasDirectory path then .ok () else .error (.invalidInput ("not a directory: " ++ path))

/-- The audit with what was found in manifests, made at a time. Its report is made from all
    the rest. -/
def ClusterResult.audit (now : String) (found : ClusterResult) : ClusterAudit :=
  ClusterAudit.withReport { found with report := "", analyzedAt := now }

/-- The audit of the manifests that a request names, made at a time. -/
def validateManifests (fs : FileSystem) (c : Config) (now : String) (r : ClusterRequest) :
    Except AuditError ClusterAudit := do
  r.roots.forM fs.requireDirectory
  if r.roots.isEmpty then
    .error (.invalidInput "either a manifests directory or a Helm chart is required")
  let run ← c.policyRun r.policySet
  return (auditFiles run r.values (r.roots.flatMap fs.manifests)).audit now

end InfraAudit
