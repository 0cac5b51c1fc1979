import InfraAudit.Report.View

/-!
Reports in Markdown.
-/
namespace InfraAudit.Report.Markdown

/-- A character as it stands in a cell of a table. -/
def cellChar (c : Char) : List Char :=
  if c = '|' then ['\\', '|'] else if c = '\n' then [' '] else [c]

/-- A text as it stands in a cell of a table: bars are escaped, and line feeds are
    spaces. -/
def cell (text : String) : String := String.ofList (text.toList.flatMap cellChar)

/-- A text as code. -/
def code (text : String) : String := "`" ++ text ++ "`"

/-- A row of a table. -/
def row (cells : List String) : String := "| " ++ String.intercalate " | " cells ++ " |\n"

/-- The head of a table with some columns. -/
def tableHead (columns : List String) : String :=
  row columns ++ "|" ++ String.join (columns.map fun _ => "---|") ++ "\n"

/-- The cell that says where a finding was made. -/
def resourceCell (f : Finding) : String :=
  match f.resource with
  | none => "-"
  | some r =>
    code (r.resourceType ++ "." ++ r.name) ++
      (match r.path with
        | some path => " (" ++ path ++ ")"
        | none => "")

/-- The title. -/
def heading (v : View) : String := if v.title.isEmpty then "" else "## " ++ v.title ++ "\n\n"

/-- The summary. -/
def summary (v : View) : String :=
  if v.summary.isEmpty then ""
  else
    tableHead ["Metric", "Value"] ++
      String.join (v.summary.map fun (label, value) => row [cell label, cell value]) ++ "\n"

/-- The row of a finding. -/
def findingRow (f : Finding) : String :=
  row
    [severityTag f.severity, code f.ruleId, resourceCell f, cell (f.evidence.getD "-"),
      cell f.recommendation]

/-- The findings. -/
def findings (v : View) : String :=
  "### Findings\n\n" ++
  (if v.findings.isEmpty then "No findings.\n\n"
  else
    tableHead ["Severity", "Rule", "Resource", "Evidence", "Recommendation"] ++
      String.join (v.sortedFindings.map findingRow) ++ "\n")

/-- An analysis. -/
def analysis (a : Risk.Analysis) : String :=
  "- " ++ code a.address ++ " (" ++ a.level.name ++ "): " ++ String.intercalate "; " a.concerns ++ "\n"

/-- The analyses, if any has concerns. -/
def analyses (v : View) : String :=
  if v.riskyAnalyses.isEmpty then ""
  else "### Risk analysis\n\n" ++ String.join (v.riskyAnalyses.map analysis) ++ "\n"

/-- The row of a changed attribute. -/
def driftRow (d : Plan.DriftDetail) : String :=
  row [code d.address, code d.field, code (cell d.before.compact), code (cell d.after.compact)]

/-- The changed attributes, if there are any. -/
def drift (v : View) : String :=
  match v.shownDrift? with
  | none => ""
  | some d =>
    "### Changed attributes (" ++ toString d.changedResources ++ " resource(s))\n\n" ++
      tableHead ["Resource", "Field", "Before", "After"] ++
      String.join (d.details.map driftRow) ++ "\n"

/-- The failure of a rule. -/
def ruleFailure (f : RuleFailure) : String :=
  "- rule " ++ code f.ruleId ++ " could not evaluate " ++ code (f.resourceType ++ " " ++ f.resourceName) ++
    ": " ++ f.message ++ "\n"

/-- The warnings, if there are any. -/
def warnings (v : View) : String :=
  if v.ruleFailures.isEmpty && v.diagnostics.isEmpty then ""
  else
    "### Warnings\n\n" ++ String.join (v.ruleFailures.map ruleFailure) ++
      String.join (v.diagnostics.map fun d => "- " ++ d.text ++ "\n") ++ "\n"

/-- A report in Markdown. -/
def render (v : View) : String :=
  heading v ++ summary v ++ findings v ++ analyses v ++ drift v ++ warnings v

end InfraAudit.Report.Markdown
