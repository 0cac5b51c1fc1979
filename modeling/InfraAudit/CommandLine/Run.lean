import InfraAudit.CommandLine.Options
import InfraAudit.Report.Render

/-!
Running commands.
-/
namespace InfraAudit.CommandLine

/-- What a command writes, and the status with which it exits. -/
structure Outcome where
  stdout : String
  exit : Nat
  deriving DecidableEq, Repr

/-- What the surroundings of a command decide. -/
structure Surroundings where
  files : FileSystem
  /-- The present time, as it is written. -/
  now : String
  /-- Whether output has colors. -/
  color : Bool

/-- The status of a program that has found what it should fail on. -/
def thresholdExceeded : Nat := 2

/-- The status after an audit: whether some finding is at least as severe as the
    threshold. -/
def exitStatus (findings : List Finding) (failOn : Option Severity) : Nat :=
  match failOn with
  | none => 0
  | some threshold => if findings.any (threshold ≤ ·.severity) then thresholdExceeded else 0

/-! ### Lists -/

/-- A text filled up with blanks to a width. -/
def padded (width : Nat) (text : String) : String :=
  text ++ String.ofList (List.replicate (width - text.length) ' ')

/-- The lines about a rule. -/
def ruleLines (color : Bool) (i : RuleInfo) : String :=
  Report.styled color .bold (padded 28 i.id) ++ " " ++ padded 5 i.severity.name ++ " " ++
    padded 14 i.category.name ++ " " ++ i.title ++ "\n" ++
    padded 28 "" ++ " applies to: " ++ String.intercalate ", " i.resourceTypes ++ "\n"

/-- The list of the rules that pass a filter. -/
def listRules (color json : Bool) (f : RuleFilter) : String :=
  let infos := (RuleEngine.builtin.list f).map Rule.info
  if json then (Record.encodeList RuleInfo.encode infos).pretty
  else String.join (infos.map (ruleLines color)) ++ "\n" ++ toString infos.length ++ " rule(s)\n"

/-- The line about a tool. -/
def toolLine (color : Bool) (t : Tool) : String :=
  Report.styled color (if t.supported then .bold else .dim) (padded 14 t.name) ++ " " ++
    t.description ++ "\n"

/-- The list of the tools. -/
def listTools (color : Bool) : String := String.join (Tool.all.map (toolLine color))

/-! ### Audits -/

/-- Shows an audit of a plan. -/
def showPlanAudit (s : Surroundings) (c : Config) (o : Output) (a : PlanAudit) : Outcome :=
  { stdout := Report.render (o.format.getD c.reportFormat) s.color a.view a.encode
    exit := exitStatus a.risks o.failOn }

/-- Shows an audit of manifests. -/
def showClusterAudit (s : Surroundings) (c : Config) (o : Output) (a : ClusterAudit) : Outcome :=
  { stdout := Report.render (o.format.getD c.reportFormat) s.color a.view a.encode
    exit := exitStatus a.findings o.failOn }

/-- Runs a command with the configuration that it is given. -/
def run (s : Surroundings) (i : Invocation) : Except AuditError Outcome :=
  match i.command with
  | .explainPlan request output => do
    let c ← (s.files.loadConfig i.config (some request.workspace)).mapError .config
    return showPlanAudit s c output (← InfraAudit.explainPlan s.files c s.now request)
  | .validateManifests request output => do
    let workspace := request.manifestsDir.or request.helmChart
    let c ← (s.files.loadConfig i.config workspace).mapError .config
    return showClusterAudit s c output (← InfraAudit.validateManifests s.files c s.now request)
  | .rules filter json => .ok ⟨listRules s.color json filter, 0⟩
  | .tools => .ok ⟨listTools s.color, 0⟩
  | .call tool text => do
    let args ← (Json.parse text).mapError .arguments
    let c ← (s.files.loadConfig i.config (args.fieldStr? "workspace")).mapError .config
    return ⟨(← Tool.call s.files c s.now tool args).pretty, 0⟩

/-- The paths at which a command may look for files. -/
def pathsOf (home : Option String) (i : Invocation) : List String :=
  let configs (workspace : Option String) :=
    i.config.toList ++ (FileSystem.mk (fun _ => .error .notFound) home).configPaths workspace
  match i.command with
  | .explainPlan request _ => configs (some request.workspace) ++ [request.planFile]
  | .validateManifests request _ =>
    configs (request.manifestsDir.or request.helmChart) ++ request.roots
  | .rules .. | .tools => []
  | .call _ text =>
    match Json.parse text with
    | .error _ => []
    | .ok args =>
      configs (args.fieldStr? "workspace") ++
        ((PlanRequest.decode args).toOption.elim [] fun r => [r.planFile]) ++
        ((ClusterRequest.decode args).toOption.elim [] ClusterRequest.roots)

/-- The name and the version of the program. -/
def versionText : String := "iac-explain 0.1.0\n"

/-- An option as a usage note shows it. -/
def optionUsage (o : OptionSpec) : String :=
  "[--" ++ o.long ++ (if o.accepts.isSome then " VALUE" else "") ++ "]"

/-- A command as a usage note shows it. -/
def commandUsage (c : CommandSpec) : String :=
  "  " ++ String.intercalate " " ([c.name] ++ c.options.map optionUsage ++
    (match c.operand with
      | some o => [if o.required then "TOOL" else "[WORKSPACE]"]
      | none => [])) ++ "\n"

/-- The note on how the program is used. -/
def usage : String :=
  "Usage: iac-explain " ++ String.intercalate " " (programOptions.map optionUsage) ++ " COMMAND\n\n" ++
    "Commands:\n" ++ String.join (commandSpecs.map commandUsage)

end InfraAudit.CommandLine
