import InfraAudit.Audit.Tool
import InfraAudit.CommandLine.Arguments
import InfraAudit.Report.Format

/-!
The commands of the program and their options.
-/
namespace InfraAudit.CommandLine

/-! ### Options -/

/-- An option that takes a value. -/
def valueOption (long : String) (accepts : String → Bool) : OptionSpec := ⟨long, none, some accepts, false⟩

/-- Whether a text can be the path of a file. -/
def isPath (text : String) : Bool := !text.isEmpty

/-- Whether a text is one of some names. -/
def isName {α : Type} (names : List (String × α)) (text : String) : Bool := (names.lookup text).isSome

/-- An option that takes a path. -/
def pathOption (long : String) : OptionSpec := valueOption long isPath

/-- An option that takes any text. -/
def textOption (long : String) : OptionSpec := valueOption long (fun _ => true)

/-- An option that takes one of some names. -/
def nameOption {α : Type} (long : String) (names : List (String × α)) : OptionSpec :=
  valueOption long (isName names)

/-- The options of the program, which every command has as well. -/
def programOptions : List OptionSpec :=
  [⟨"config", some 'c', some isPath, false⟩,
    ⟨"verbose", some 'v', none, true⟩,
    ⟨"quiet", some 'q', none, false⟩]

/-- The options about the output of an audit. -/
def outputOptions : List OptionSpec :=
  [nameOption "format" Report.Format.names, nameOption "fail-on" Severity.names]

/-- The commands. -/
def commandSpecs : List CommandSpec :=
  [{ name := "explain-plan"
     options :=
       [pathOption "plan", nameOption "cloud" Cloud.names, textOption "policy-set",
         nameOption "depth" Depth.names] ++ outputOptions
     operand := some ⟨isPath, false⟩ },
    { name := "validate-k8s"
      options :=
        [pathOption "manifests", pathOption "helm-chart", { pathOption "values" with repeats := true },
          textOption "policy-set"] ++ outputOptions
      operand := none },
    { name := "rules"
      options :=
        [textOption "provider", textOption "resource-type", nameOption "severity" Severity.names,
          nameOption "category" RuleCategory.names, ⟨"json", none, none, false⟩]
      operand := none },
    { name := "tools", options := [], operand := none },
    { name := "call", options := [textOption "args"], operand := some ⟨fun _ => true, true⟩ }]

/-! ### Commands -/

/-- How the outcome of an audit is shown. -/
structure Output where
  /-- The format, if it is not that of the configuration. -/
  format : Option Report.Format
  /-- The least severity of a finding that makes the program fail. -/
  failOn : Option Severity
  deriving DecidableEq, Repr

/-- A command with its options. -/
inductive Command where
  | explainPlan (request : PlanRequest) (output : Output)
  | validateManifests (request : ClusterRequest) (output : Output)
  | rules (filter : RuleFilter) (json : Bool)
  | tools
  | call (tool args : String)
  deriving DecidableEq, Repr

/-- A command with the configuration that it is given. -/
structure Invocation where
  config : Option String
  command : Command
  deriving DecidableEq, Repr

/-- The value of an option. -/
def Given.value? (g : Given) (long : String) : Option String := g.options.lookup long

/-- The values of an option that repeats. -/
def Given.values (g : Given) (long : String) : List String :=
  (g.options.filter (·.1 == long)).map Prod.snd

/-- What the value of an option names. -/
def Given.named? {α : Type} (g : Given) (long : String) (names : List (String × α)) : Option α :=
  (g.value? long).bind fun name => names.lookup name

/-- How the outcome is shown. -/
def Given.output (g : Given) : Output :=
  ⟨g.named? "format" Report.Format.names, g.named? "fail-on" Severity.names⟩

/-- The command of a name; none for an unknown name. -/
def command? (name : String) (g : Given) : Option Command :=
  match name with
  | "explain-plan" =>
    some (.explainPlan
      { workspace := g.operands.head?.getD "."
        planPath := g.value? "plan"
        cloud := g.named? "cloud" Cloud.names
        policySet := g.value? "policy-set"
        depth := g.named? "depth" Depth.names }
      g.output)
  | "validate-k8s" =>
    some (.validateManifests
      { manifestsDir := g.value? "manifests"
        helmChart := g.value? "helm-chart"
        values := g.values "values"
        policySet := g.value? "policy-set" }
      g.output)
  | "rules" =>
    some (.rules
      { provider := g.value? "provider"
        resourceType := g.value? "resource-type"
        severity := g.named? "severity" Severity.names
        category := g.named? "category" RuleCategory.names }
      (g.value? "json").isSome)
  | "tools" => some .tools
  | "call" => some (.call (g.operands.head?.getD "") ((g.value? "args").getD "\x7b\x7d"))
  | _ => none

/-- The invocation that some arguments ask for, or what stops it. A configuration
    that is given to the command counts before one given to the program. -/
def parse (args : List String) : Except Stop Invocation := do
  let given ← readProgram programOptions commandSpecs .start args
  match command? given.name given.sub with
  | some command => return ⟨(given.sub.value? "config").or (given.top.value? "config"), command⟩
  | none => .error .error

end InfraAudit.CommandLine
