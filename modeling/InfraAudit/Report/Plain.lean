import InfraAudit.Report.Style
import InfraAudit.Report.View

/-!
Reports in plain text, with or without colors.
-/
namespace InfraAudit.Report.Plain

/-- A line. -/
def line (text : String) : String := text ++ "\n"

/-- The style of a severity. -/
def severityStyle : Severity → Style
  | .crit => .boldRed
  | .high => .red
  | .med => .yellow
  | .low => .blue

/-- The label of a severity. -/
def severityLabel (color : Bool) (s : Severity) : String :=
  styled color (severityStyle s) ("[" ++ severityTag s ++ "]")

/-- The label of a level of risk; a low one is not set off. -/
def riskLabel (color : Bool) (l : Risk.Level) : String :=
  match l with
  | .critical => styled color .boldRed l.name
  | .high => styled color .red l.name
  | .medium => styled color .yellow l.name
  | .low => l.name

/-- Where a finding was made. -/
def location (f : Finding) : String :=
  match f.resource with
  | none => "-"
  | some r =>
    r.resourceType ++ " " ++ r.name ++
      (match r.path with
        | some path => " (" ++ path ++ ")"
        | none => "")

/-- The title and the summary. -/
def heading (color : Bool) (v : View) : String :=
  (if v.title.isEmpty then "" else line (styled color .bold v.title)) ++
  String.join (v.summary.map fun (label, value) => line ("  " ++ label ++ ": " ++ value)) ++
  (if v.title.isEmpty && v.summary.isEmpty then "" else "\n")

/-- A finding. -/
def finding (color : Bool) (f : Finding) : String :=
  line (severityLabel color f.severity ++ " " ++ f.ruleId ++ " " ++ location f ++ " - " ++ f.description) ++
  (match f.evidence with
    | some evidence => line ("  Evidence: " ++ evidence)
    | none => "") ++
  line ("  Recommendation: " ++ f.recommendation)

/-- An analysis. -/
def analysis (color : Bool) (a : Risk.Analysis) : String :=
  line ("  " ++ a.address ++ " [" ++ riskLabel color a.level ++ "]") ++
  String.join (a.concerns.map fun c => line ("    - " ++ c))

/-- The analyses, if any has concerns. -/
def analyses (color : Bool) (v : View) : String :=
  if v.riskyAnalyses.isEmpty then ""
  else
    "\n" ++ line (styled color .bold "Risk analysis") ++
      String.join (v.riskyAnalyses.map (analysis color))

/-- A changed attribute. -/
def driftDetail (d : Plan.DriftDetail) : String :=
  line ("  " ++ d.address ++ "." ++ d.field ++ ": " ++ d.before.compact ++ " -> " ++ d.after.compact)

/-- The changed attributes, if there are any. -/
def drift (color : Bool) (v : View) : String :=
  match v.shownDrift? with
  | none => ""
  | some d =>
    "\n" ++ line (styled color .bold "Changed attributes") ++ String.join (d.details.map driftDetail)

/-- A warning. -/
def warning (color : Bool) (text : String) : String :=
  line (styled color .yellow "warning:" ++ " " ++ text)

/-- The failure of a rule. -/
def ruleFailure (f : RuleFailure) : String :=
  "rule " ++ f.ruleId ++ " could not evaluate " ++ f.resourceType ++ " " ++ f.resourceName ++ ": " ++
    f.message

/-- The number of findings. -/
def count (v : View) : String :=
  if v.findings.isEmpty then line "No findings."
  else "\n" ++ line ("Found " ++ toString v.findings.length ++ " finding(s).")

/-- A report in plain text. -/
def render (color : Bool) (v : View) : String :=
  heading color v ++
  String.join (v.sortedFindings.map (finding color)) ++
  analyses color v ++
  drift color v ++
  String.join (v.ruleFailures.map fun f => warning color (ruleFailure f)) ++
  String.join (v.diagnostics.map fun d => warning color d.text) ++
  count v

end InfraAudit.Report.Plain
