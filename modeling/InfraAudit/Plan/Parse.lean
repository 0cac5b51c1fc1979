import InfraAudit.Json.Reader
import InfraAudit.Plan.Basic

/-!
Reading plans from JSON text.
-/
namespace InfraAudit.Plan

/-- Why a text is not a plan. -/
inductive ParseError where
  /-- The text is not JSON. -/
  | syntaxError (e : Json.SyntaxError)
  /-- The value of the text is not a plan. -/
  | invalid (e : ValidationError)
  deriving DecidableEq, Repr

/-- An error as text. -/
def ParseError.message : ParseError → String
  | .syntaxError e => "plan is not valid JSON: " ++ e.message
  | .invalid e => "plan does not match the expected structure: " ++ e.message

/-- The plan of a text. -/
def parse (text : String) : Except ParseError Plan :=
  match Json.parse text with
  | .error e => .error (.syntaxError e)
  | .ok v => (ofValue v).mapError .invalid

end InfraAudit.Plan
