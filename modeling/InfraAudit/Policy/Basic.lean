import InfraAudit.Policy.Config
import InfraAudit.Rule.Builtin

/-!
Policies: which rules are run and which findings are reported.

A policy set adds to the selection of rules of the configuration: what either
excludes is excluded, and its own least severity comes before the other one.
-/
namespace InfraAudit

/-- A policy; an empty list of included rules includes all. -/
structure Policy where
  name : Option String
  included : List String
  excluded : List String
  minSeverity : Severity
  deriving DecidableEq, Repr

namespace Policy

/-- Whether a rule of an id is run. What is excluded is not run, even if it is
    included. -/
def allowsRule (p : Policy) (id : String) : Bool :=
  !p.excluded.contains id && (p.included.isEmpty || p.included.contains id)

/-- Whether a finding is reported. -/
def allowsFinding (p : Policy) (f : Finding) : Bool := p.minSeverity ≤ f.severity

/-- The built-in rules that a policy runs. -/
def keptRules (p : Policy) : List Rule := Rule.builtin.filter (fun r => p.allowsRule r.id)

/-- The engine with the built-in rules that a policy runs. -/
def engine (p : Policy) : Except InvalidRule RuleEngine :=
  match RuleEngine.empty.registerAll p.keptRules with
  | (e, none) => .ok e
  | (_, some err) => .error err

/-- An evaluation without the findings that are not reported. -/
def report (p : Policy) (e : Evaluation) : Evaluation :=
  { e with findings := e.findings.filter p.allowsFinding }

end Policy

/-- A list with those members of another one that it does not have, each once. -/
def addMissing (ids : List String) : List String → List String
  | [] => ids
  | id :: rest => addMissing (if ids.contains id then ids else ids ++ [id]) rest

namespace Config

/-- The least severity that is reported without a policy set. -/
def minSeverity (c : Config) : Severity := c.rules.minSeverity.getD .low

/-- The policy without a policy set. -/
def basePolicy (c : Config) : Policy :=
  { name := none, included := [], excluded := c.rules.excluded, minSeverity := c.minSeverity }

/-- The policy of a policy set, or the one without; none when the set is unknown. -/
def policy? (c : Config) (name : Option String) : Option Policy :=
  match name with
  | none => some c.basePolicy
  | some name =>
    (c.policySets.lookup name).map fun set =>
      { name := some name
        included := set.included
        excluded := addMissing c.rules.excluded set.excluded
        minSeverity := set.minSeverity.getD c.minSeverity }

end Config

end InfraAudit
