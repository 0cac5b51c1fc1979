import InfraAudit.Rule.Finding

/-!
Rules and the resources they are evaluated on.

A rule is a description and a function that looks at a resource: it gives a
finding, gives nothing, or fails because the resource is not of the form that the
rule needs.
-/
namespace InfraAudit

open Record

/-- What a rule is about. -/
inductive RuleCategory where
  | security
  | compliance
  | bestPractice
  | performance
  deriving DecidableEq, Repr

namespace RuleCategory

/-- The names of the categories. -/
def names : List (String × RuleCategory) :=
  [("security", .security), ("compliance", .compliance), ("best-practice", .bestPractice),
    ("performance", .performance)]

/-- The name of a category. -/
def name : RuleCategory → String
  | .security => "security"
  | .compliance => "compliance"
  | .bestPractice => "best-practice"
  | .performance => "performance"

/-- A category as a value. -/
def encode (c : RuleCategory) : Value := .string c.name

/-- Decodes a category. -/
def decode : Decoder RuleCategory := enumeration names

@[simp] theorem decode_encode (c : RuleCategory) : decode c.encode = .ok c := by cases c <;> rfl

end RuleCategory

/-- The description of a rule. -/
structure RuleInfo where
  id : String
  title : String
  description : String
  severity : Severity
  category : RuleCategory
  provider : Option String
  resourceTypes : List String
  references : List String
  deriving DecidableEq, Repr

namespace RuleInfo

/-- Whether a rule applies to resources of a type. -/
def appliesTo (i : RuleInfo) (resourceType : String) : Bool := i.resourceTypes.contains resourceType

/-- A description as a value. -/
def encode (i : RuleInfo) : Value :=
  .object (
    [("id", .string i.id),
      ("title", .string i.title),
      ("description", .string i.description),
      ("severity", i.severity.encode),
      ("category", i.category.encode)] ++
    fieldIfSome "provider" Value.string i.provider ++
    [("resourceTypes", encodeList Value.string i.resourceTypes)] ++
    fieldUnlessEmpty "references" Value.string i.references)

/-- The shape of a description. -/
def shape : Shape := ⟨"RuleMeta", 8⟩

/-- Decodes a description. -/
def decode : Decoder RuleInfo :=
  record shape fun s =>
    (fun id title description severity category provider resourceTypes references =>
        { id, title, description, severity, category, provider, resourceTypes, references })
      <$> s.field shape 0 "id" string .required
      <*> s.field shape 1 "title" string .required
      <*> s.field shape 2 "description" string .required
      <*> s.field shape 3 "severity" Severity.decode .required
      <*> s.field shape 4 "category" RuleCategory.decode .required
      <*> s.field shape 5 "provider" (optional string) (.default none)
      <*> s.field shape 6 "resourceTypes" (list string) .required
      <*> s.field shape 7 "references" (list string) (.default [])

end RuleInfo

/-- Why a rule cannot be evaluated on a resource. -/
inductive RuleError where
  /-- A field of the resource does not have the form that the rule needs. -/
  | malformed (field reason : String)
  /-- The evaluation fails for another reason. -/
  | evaluation (reason : String)
  deriving DecidableEq, Repr

/-- An error as text. -/
def RuleError.message : RuleError → String
  | .malformed field reason => "malformed resource at " ++ Text.ticked field ++ ": " ++ reason
  | .evaluation reason => "evaluation failed: " ++ reason

/-- A resource that rules are evaluated on. -/
structure Target where
  resource : Value
  resourceType : String
  name : String
  path : Option String

/-- The reference that findings about a target carry. -/
def Target.ref (t : Target) : ResourceRef :=
  { resourceType := t.resourceType, name := t.name, path := t.path }

/-- What a rule says about a resource. -/
abbrev RuleOutcome := Except RuleError (Option Finding)

/-- A rule. -/
structure Rule where
  info : RuleInfo
  evaluate : Target → RuleOutcome

/-- The id of a rule. -/
def Rule.id (r : Rule) : String := r.info.id

/-- A finding of a rule about a target. -/
def RuleInfo.finding (i : RuleInfo) (t : Target) (description recommendation : String) : Finding :=
  { ruleId := i.id
    severity := i.severity
    title := i.title
    description
    resource := some t.ref
    evidence := none
    recommendation
    references := i.references }

/-- A finding with its evidence. -/
def Finding.withEvidence (f : Finding) (evidence : String) : Finding := { f with evidence := some evidence }

/-- A finding with another severity than that of its rule. -/
def Finding.withSeverity (f : Finding) (severity : Severity) : Finding := { f with severity }

end InfraAudit
