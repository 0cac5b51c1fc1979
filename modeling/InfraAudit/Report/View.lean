import InfraAudit.Manifest.Parse
import InfraAudit.Plan.Drift
import InfraAudit.Risk.Basic
import InfraAudit.Rule.Engine

/-!
What reports show, whatever their format.
-/
namespace InfraAudit.Report

/-- The content of a report. -/
structure View where
  title : String
  /-- Labels with values, shown first. -/
  summary : List (String × String)
  findings : List Finding
  ruleFailures : List RuleFailure
  diagnostics : List Manifest.Diagnostic
  analyses : List Risk.Analysis
  drift : Option Plan.Drift

/-- The findings, the most severe first; those of one severity keep their order. -/
def sortBySeverity (findings : List Finding) : List Finding :=
  findings.mergeSort (fun a b => decide (b.severity ≤ a.severity))

namespace View

/-- The findings in the order in which they are shown. -/
def sortedFindings (v : View) : List Finding := sortBySeverity v.findings

/-- The analyses that have concerns. -/
def riskyAnalyses (v : View) : List Risk.Analysis := v.analyses.filter (·.hasConcerns)

/-- The drift, if anything differs. -/
def shownDrift? (v : View) : Option Plan.Drift := v.drift.filter (fun d => !d.details.isEmpty)

end View

/-- The name of a severity in capitals. -/
def severityTag : Severity → String
  | .low => "LOW"
  | .med => "MED"
  | .high => "HIGH"
  | .crit => "CRIT"

end InfraAudit.Report
