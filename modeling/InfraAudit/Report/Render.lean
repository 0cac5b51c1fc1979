import InfraAudit.Report.Format
import InfraAudit.Report.Markdown
import InfraAudit.Report.Plain

/-!
Reports in any format.
-/
namespace InfraAudit.Report

/-- A report in a format: its view as plain text or in Markdown, or the value that
    stands for it as JSON. Only plain text has colors. -/
def render (f : Format) (color : Bool) (v : View) (value : Value) : String :=
  match f with
  | .plain => Plain.render color v
  | .markdown => Markdown.render v
  | .json => value.pretty

end InfraAudit.Report
