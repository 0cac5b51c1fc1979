import InfraAudit.Files.System
import InfraAudit.Plan.Parse

/-!
Why an audit cannot be made.
-/
namespace InfraAudit

/-- Why a configuration cannot be used. -/
inductive ConfigError where
  | unreadable (path : String) (e : FileError)
  /-- The file is no configuration. -/
  | invalid (path : String)
  | unknownPolicySet (name : String)
  deriving DecidableEq, Repr

/-- An error as text. -/
def ConfigError.message : ConfigError → String
  | .unreadable path e => "Failed to read configuration file " ++ path ++ ": " ++ e.message
  | .invalid path => "Configuration parsing failed: " ++ path
  | .unknownPolicySet name => "Unknown policy set: " ++ name

/-- Why an audit cannot be made. -/
inductive AuditError where
  | file (e : FileError)
  /-- The arguments of a tool are not JSON. -/
  | arguments (e : Json.SyntaxError)
  | plan (e : Plan.ParseError)
  | config (e : ConfigError)
  | unknownTool (name : String)
  /-- The tool is known, but there is none. -/
  | unsupportedTool (name : String)
  | invalidInput (reason : String)
  deriving DecidableEq, Repr

/-- An error as text. -/
def AuditError.message : AuditError → String
  | .file e => "IO error: " ++ e.message
  | .arguments e => "JSON error: " ++ e.message
  | .plan e => "Plan error: " ++ e.message
  | .config e => "Configuration error: " ++ e.message
  | .unknownTool name => "Unknown operation: " ++ name
  | .unsupportedTool name => "Operation '" ++ name ++ "' is not supported"
  | .invalidInput reason => "Invalid input: " ++ reason

end InfraAudit
