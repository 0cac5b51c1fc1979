import InfraAudit.Report.Format
import InfraAudit.Rule.Finding
import InfraAudit.Toml.Reader

/-!
The configuration: how deep plans are analyzed, the format of reports, which rules
are left out, and named policy sets. Everything has a default.
-/
namespace InfraAudit

open Record

/-- How much a plan is analyzed. -/
inductive Depth where
  /-- By rules only. -/
  | fast
  /-- By rules, risks and drift. -/
  | full
  deriving DecidableEq, Repr

namespace Depth

/-- The names of the depths. -/
def names : List (String × Depth) := [("fast", .fast), ("full", .full)]

/-- The name of a depth. -/
def name : Depth → String
  | .fast => "fast"
  | .full => "full"

end Depth

/-- The rules that are left out, and the least severity that is reported. -/
structure RuleSelection where
  excluded : List String
  minSeverity : Option Severity
  deriving DecidableEq, Repr

/-- A policy set; an empty list of included rules includes all. -/
structure PolicySet where
  included : List String
  excluded : List String
  minSeverity : Option Severity
  deriving DecidableEq, Repr

/-- A configuration. The policy sets are ordered by name. -/
structure Config where
  depth : Depth
  format : String
  rules : RuleSelection
  policySets : List (String × PolicySet)
  deriving DecidableEq, Repr

/-- The selection of all rules. -/
def RuleSelection.default : RuleSelection := ⟨[], none⟩

/-- The configuration that holds where nothing is configured. -/
def Config.default : Config :=
  { depth := .fast, format := Report.Format.plain.name, rules := .default, policySets := [] }

/-! ### Decoding -/

/-- The shape of the section about analysis. -/
def Config.analysisShape : Shape := ⟨"AnalysisConfig", 1⟩

/-- Decodes the section about analysis. -/
def Config.decodeAnalysis (layout : Layout) : Decoder Depth :=
  recordIn layout analysisShape fun s =>
    s.field analysisShape 0 "depth" (enumerationIn layout Depth.names) (.default Config.default.depth)

/-- The shape of the section about output. -/
def Config.outputShape : Shape := ⟨"OutputConfig", 1⟩

/-- Decodes the section about output. -/
def Config.decodeOutput (layout : Layout) : Decoder String :=
  recordIn layout outputShape fun s =>
    s.field outputShape 0 "format" string (.default Config.default.format)

/-- The shape of the section about rules. -/
def RuleSelection.shape : Shape := ⟨"RulesConfig", 2⟩

/-- Decodes the section about rules. -/
def RuleSelection.decode (layout : Layout) : Decoder RuleSelection :=
  recordIn layout shape fun s =>
    RuleSelection.mk
      <$> s.field shape 0 "exclude" (list string) (.default [])
      <*> s.field shape 1 "min_severity" (optional (enumerationIn layout Severity.names)) (.default none)

/-- The shape of a policy set. -/
def PolicySet.shape : Shape := ⟨"PolicySetConfig", 3⟩

/-- Decodes a policy set. -/
def PolicySet.decode (layout : Layout) : Decoder PolicySet :=
  recordIn layout shape fun s =>
    PolicySet.mk
      <$> s.field shape 0 "include" (list string) (.default [])
      <*> s.field shape 1 "exclude" (list string) (.default [])
      <*> s.field shape 2 "min_severity" (optional (enumerationIn layout Severity.names)) (.default none)

/-- The shape of a configuration. -/
def Config.shape : Shape := ⟨"Config", 4⟩

/-- Decodes a configuration. -/
def Config.decode (layout : Layout) : Decoder Config :=
  recordIn layout shape fun s =>
    (fun depth format rules policySets => { depth, format, rules, policySets })
      <$> s.field shape 0 "analysis" (decodeAnalysis layout) (.default Config.default.depth)
      <*> s.field shape 1 "output" (decodeOutput layout) (.default Config.default.format)
      <*> s.field shape 2 "rules" (RuleSelection.decode layout) (.default Config.default.rules)
      <*> s.field shape 3 "policy_sets" (map (PolicySet.decode layout)) (.default [])

/-! ### Encoding -/

/-- The section about rules as a value. -/
def RuleSelection.encode (r : RuleSelection) : Value :=
  .object
    [("exclude", encodeList Value.string r.excluded),
      ("min_severity", encodeOption Severity.encode r.minSeverity)]

/-- A policy set as a value. -/
def PolicySet.encode (p : PolicySet) : Value :=
  .object
    [("include", encodeList Value.string p.included),
      ("exclude", encodeList Value.string p.excluded),
      ("min_severity", encodeOption Severity.encode p.minSeverity)]

/-- A configuration as a value. -/
def Config.encode (c : Config) : Value :=
  .object
    [("analysis", .object [("depth", .string c.depth.name)]),
      ("output", .object [("format", .string c.format)]),
      ("rules", c.rules.encode),
      ("policy_sets", .object (c.policySets.map fun (name, p) => (name, p.encode)))]

/-! ### Configuration files -/

/-- An empty list or table, as what may stand beside a name in a configuration
    file. -/
def emptyUnit : Decoder Unit
  | .array [] => .ok ()
  | .object [] => .ok ()
  | v => .error (.mismatch v "unit")

/-- The layout of configuration files. -/
def fileLayout : Layout := ⟨emptyUnit, true⟩

/-- The configuration that a text is. -/
def Config.parse? (text : String) : Option Config := do
  let v ← Toml.parse? text
  (Config.decode fileLayout v).toOption

/-- The format of reports. An unknown name stands for plain text. -/
def Config.reportFormat (c : Config) : Report.Format := (Report.Format.parse? c.format).getD .plain

end InfraAudit
