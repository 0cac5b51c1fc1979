import InfraAudit.Text.Case

/-!
The formats of reports.
-/
namespace InfraAudit.Report

/-- A format of reports. -/
inductive Format where
  | plain
  | json
  | markdown
  deriving DecidableEq, Repr, Inhabited

namespace Format

/-- The names of the formats, each followed by its other name. -/
def names : List (String × Format) :=
  [("plain", .plain), ("text", .plain), ("json", .json), ("markdown", .markdown), ("md", .markdown)]

/-- The name of a format. -/
def name : Format → String
  | .plain => "plain"
  | .json => "json"
  | .markdown => "markdown"

/-- The format of a name, in any case. -/
def parse? (name : String) : Option Format := names.lookup (Text.lower name)

end Format

end InfraAudit.Report
