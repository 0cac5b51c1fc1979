import InfraAudit.Record.Decoder

/-!
Findings: what rules report about resources.
-/
namespace InfraAudit

/-- How severe a finding is. -/
inductive Severity where
  | low
  | med
  | high
  | crit
  deriving DecidableEq, Repr, Inhabited

namespace Severity

/-- The names of the severities, each followed by its other name. -/
def names : List (String × Severity) :=
  [("low", .low), ("med", .med), ("medium", .med), ("high", .high), ("crit", .crit), ("critical", .crit)]

/-- All severities, the least severe first. -/
def all : List Severity := [.low, .med, .high, .crit]

theorem mem_all (s : Severity) : s ∈ all := by cases s <;> decide

/-- The name of a severity. -/
def name : Severity → String
  | .low => "low"
  | .med => "med"
  | .high => "high"
  | .crit => "crit"

/-- The place of a severity in the order from the least to the most severe. -/
def rank : Severity → Nat
  | .low => 0
  | .med => 1
  | .high => 2
  | .crit => 3

instance : LE Severity := ⟨fun a b => a.rank ≤ b.rank⟩

instance (a b : Severity) : Decidable (a ≤ b) := inferInstanceAs (Decidable (a.rank ≤ b.rank))

/-- A severity as a value. -/
def encode (s : Severity) : Value := .string s.name

/-- Decodes a severity. -/
def decode : Record.Decoder Severity := Record.enumeration names

@[simp] theorem decode_encode (s : Severity) : decode s.encode = .ok s := by cases s <;> rfl

end Severity

/-- The resource that a finding is about. -/
structure ResourceRef where
  resourceType : String
  name : String
  path : Option String
  deriving DecidableEq, Repr

/-- What a rule reports about a resource. -/
structure Finding where
  ruleId : String
  severity : Severity
  title : String
  description : String
  resource : Option ResourceRef
  evidence : Option String
  recommendation : String
  references : List String
  deriving DecidableEq, Repr

open Record

namespace ResourceRef

/-- A reference as a value. -/
def encode (r : ResourceRef) : Value :=
  .object (
    [("type", .string r.resourceType), ("name", .string r.name)] ++
    fieldIfSome "path" Value.string r.path)

/-- The shape of a reference. -/
def shape : Shape := ⟨"ResourceRef", 3⟩

/-- Decodes a reference. -/
def decode : Decoder ResourceRef :=
  record shape fun s =>
    (fun resourceType name path => { resourceType, name, path })
      <$> s.field shape 0 "type" string .required
      <*> s.field shape 1 "name" string .required
      <*> s.field shape 2 "path" (optional string) (.default none)

end ResourceRef

namespace Finding

/-- A finding as a value. -/
def encode (f : Finding) : Value :=
  .object (
    [("ruleId", .string f.ruleId),
      ("severity", f.severity.encode),
      ("title", .string f.title),
      ("description", .string f.description)] ++
    fieldIfSome "resource" ResourceRef.encode f.resource ++
    fieldIfSome "evidence" Value.string f.evidence ++
    [("recommendation", .string f.recommendation)] ++
    fieldUnlessEmpty "references" Value.string f.references)

/-- The shape of a finding. -/
def shape : Shape := ⟨"Finding", 8⟩

/-- Decodes a finding. -/
def decode : Decoder Finding :=
  record shape fun s =>
    (fun ruleId severity title description resource evidence recommendation references =>
        { ruleId, severity, title, description, resource, evidence, recommendation, references })
      <$> s.field shape 0 "ruleId" string .required
      <*> s.field shape 1 "severity" Severity.decode .required
      <*> s.field shape 2 "title" string .required
      <*> s.field shape 3 "description" string .required
      <*> s.field shape 4 "resource" (optional ResourceRef.decode) (.default none)
      <*> s.field shape 5 "evidence" (optional string) (.default none)
      <*> s.field shape 6 "recommendation" string .required
      <*> s.field shape 7 "references" (list string) (.default [])

end Finding

end InfraAudit
