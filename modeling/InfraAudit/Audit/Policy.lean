import InfraAudit.Audit.Error
import InfraAudit.Policy.Basic

/-!
The configuration and the policy of an audit.

A configuration that is asked for by its path has to be there. Otherwise the one of
the workspace counts and then that of the user; one that cannot be used is passed
over.
-/
namespace InfraAudit

/-- The name of configuration files. -/
def Config.fileName : String := ".iac-explain.toml"

/-- The configuration in the file at a path. -/
def FileSystem.readConfig (fs : FileSystem) (path : String) : Except ConfigError Config :=
  match fs.readText path with
  | .error e => .error (.unreadable path e)
  | .ok text =>
    match Config.parse? text with
    | none => .error (.invalid path)
    | some c => .ok c

/-- The paths at which a configuration may stand. -/
def FileSystem.configPaths (fs : FileSystem) (workspace : Option String) : List String :=
  (workspace.toList ++ fs.home.toList).map (Path.join · Config.fileName)

/-- The configuration to use. -/
def FileSystem.loadConfig (fs : FileSystem) (explicit workspace : Option String) :
    Except ConfigError Config :=
  match explicit with
  | some path => fs.readConfig path
  | none =>
    .ok (((fs.configPaths workspace).findSome? fun path =>
      if fs.hasEntry path then (fs.readConfig path).toOption else none).getD .default)

/-- A policy with the engine that runs it. -/
structure PolicyRun where
  policy : Policy
  engine : RuleEngine

/-- The policy of a name with its engine. -/
def Config.policyRun (c : Config) (name : Option String) : Except AuditError PolicyRun :=
  match c.policy? name with
  | none => .error (.config (.unknownPolicySet (name.getD "")))
  | some policy =>
    match policy.engine with
    | .ok engine => .ok ⟨policy, engine⟩
    | .error e => .error (.invalidInput e.message)

/-- The findings that the policy reports and all failures, for some targets. -/
def PolicyRun.evaluate (p : PolicyRun) (ts : List Target) : Evaluation :=
  p.policy.report (p.engine.evaluateMany ts)

end InfraAudit
