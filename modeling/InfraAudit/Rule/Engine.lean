import InfraAudit.Rule.Basic
import InfraAudit.Text.Blank
import Std.Data.HashMap

/-!
The rule engine: rules in the order of their first registration, and the
evaluation of resources by the rules that apply to them.

Registering a rule under an id that is taken replaces the rule in its place. A rule
that fails on a resource is recorded, and the other rules are not affected.
-/
namespace InfraAudit

open Record

/-- A rule that failed on a resource. -/
structure RuleFailure where
  ruleId : String
  resourceType : String
  resourceName : String
  message : String
  deriving DecidableEq, Repr

namespace RuleFailure

/-- A failure as a value. -/
def encode (f : RuleFailure) : Value :=
  .object
    [("ruleId", .string f.ruleId),
      ("resourceType", .string f.resourceType),
      ("resourceName", .string f.resourceName),
      ("message", .string f.message)]

/-- The shape of a failure. -/
def shape : Shape := ⟨"RuleFailure", 4⟩

/-- Decodes a failure. -/
def decode : Decoder RuleFailure :=
  record shape fun s =>
    (fun ruleId resourceType resourceName message => { ruleId, resourceType, resourceName, message })
      <$> s.field shape 0 "ruleId" string .required
      <*> s.field shape 1 "resourceType" string .required
      <*> s.field shape 2 "resourceName" string .required
      <*> s.field shape 3 "message" string .required

end RuleFailure

/-- The findings and the failures of an evaluation. -/
structure Evaluation where
  findings : List Finding
  failures : List RuleFailure
  deriving DecidableEq, Repr

namespace Evaluation

/-- The evaluation that reports nothing. -/
def empty : Evaluation := ⟨[], []⟩

/-- Two evaluations one after the other. -/
def append (a b : Evaluation) : Evaluation := ⟨a.findings ++ b.findings, a.failures ++ b.failures⟩

instance : Append Evaluation := ⟨append⟩

@[simp] theorem findings_append (a b : Evaluation) : (a ++ b).findings = a.findings ++ b.findings := rfl

@[simp] theorem failures_append (a b : Evaluation) : (a ++ b).failures = a.failures ++ b.failures := rfl

/-- Several evaluations one after the other. -/
def concat (parts : List Evaluation) : Evaluation := parts.foldr append empty

@[simp] theorem findings_concat (parts : List Evaluation) :
    (concat parts).findings = parts.flatMap (·.findings) := by
  induction parts with
  | nil => rfl
  | cons a parts ih => simp [← ih, concat, append]

@[simp] theorem failures_concat (parts : List Evaluation) :
    (concat parts).failures = parts.flatMap (·.failures) := by
  induction parts with
  | nil => rfl
  | cons a parts ih => simp [← ih, concat, append]

/-- An evaluation as a value. -/
def encode (e : Evaluation) : Value :=
  .object (
    [("findings", encodeList Finding.encode e.findings)] ++
    fieldUnlessEmpty "failures" RuleFailure.encode e.failures)

/-- The shape of an evaluation. -/
def shape : Shape := ⟨"EvaluationReport", 2⟩

/-- Decodes an evaluation. -/
def decode : Decoder Evaluation :=
  record shape fun s =>
    (fun findings failures => { findings, failures })
      <$> s.field shape 0 "findings" (list Finding.decode) .required
      <*> s.field shape 1 "failures" (list RuleFailure.decode) (.default [])

end Evaluation

/-! ### Evaluating rules -/

namespace Rule

/-- The failure of a rule on a target. -/
def failure (r : Rule) (t : Target) (e : RuleError) : RuleFailure :=
  { ruleId := r.id, resourceType := t.resourceType, resourceName := t.name, message := e.message }

/-- An evaluation of a target after one more rule, whose finding or failure comes last. -/
def record (t : Target) (sofar : Evaluation) (r : Rule) : Evaluation :=
  match r.evaluate t with
  | .ok (some f) => { sofar with findings := sofar.findings ++ [f] }
  | .ok none => sofar
  | .error e => { sofar with failures := sofar.failures ++ [r.failure t e] }

/-- The evaluation of a target by those of some rules that apply to it, in their order. -/
def evaluateAll (rules : List Rule) (t : Target) : Evaluation :=
  (rules.filter (fun r => r.info.appliesTo t.resourceType)).foldl (record t) .empty

end Rule

/-! ### Selecting rules -/

/-- A selection of rules; what is not set does not restrict it. -/
structure RuleFilter where
  provider : Option String
  resourceType : Option String
  severity : Option Severity
  category : Option RuleCategory
  deriving DecidableEq, Repr

namespace RuleFilter

/-- The filter that every rule passes. -/
def all : RuleFilter := ⟨none, none, none, none⟩

/-- Whether a rule passes a filter. -/
def accepts (f : RuleFilter) (i : RuleInfo) : Bool :=
  f.provider.all (fun p => i.provider == some p) &&
    f.resourceType.all i.appliesTo &&
    f.severity.all (· == i.severity) &&
    f.category.all (· == i.category)

end RuleFilter

/-! ### The engine -/

/-- Why a rule cannot be registered. -/
inductive InvalidRule where
  /-- The rule has a blank id. -/
  | blankId (id : String)
  /-- The rule applies to no type of resources. -/
  | noResourceTypes (id : String)
  deriving DecidableEq, Repr

/-- An error as text. -/
def InvalidRule.message : InvalidRule → String
  | .blankId id => "invalid rule " ++ Text.ticked id ++ ": rule id must not be empty"
  | .noResourceTypes id =>
    "invalid rule " ++ Text.ticked id ++ ": rule must declare at least one resource type"

/-- Rules with an index of their places by id. -/
structure RuleEngine where
  rules : Array Rule
  index : Std.HashMap String Nat

namespace RuleEngine

/-- The engine without rules. -/
def empty : RuleEngine := ⟨#[], ∅⟩

/-- Why a rule cannot be registered, if it cannot. -/
def refusal? (r : Rule) : Option InvalidRule :=
  if Text.isBlankText r.id then some (.blankId r.id)
  else if r.info.resourceTypes.isEmpty then some (.noResourceTypes r.id)
  else none

/-- Puts a rule in the place of its id, or at the end when the id is new. -/
def insert (e : RuleEngine) (r : Rule) : RuleEngine :=
  match e.index[r.id]? with
  | some slot => { e with rules := e.rules.setIfInBounds slot r }
  | none => { rules := e.rules.push r, index := e.index.insert r.id e.rules.size }

/-- Registers a rule: the engine afterwards, and the reason if the rule is refused. -/
def register (e : RuleEngine) (r : Rule) : RuleEngine × Option InvalidRule :=
  match refusal? r with
  | some err => (e, some err)
  | none => (e.insert r, none)

/-- Registers rules in order up to the first that is refused: the engine with the
    rules before it, and the reason of the refusal, if there is one. -/
def registerAll (e : RuleEngine) : List Rule → RuleEngine × Option InvalidRule
  | [] => (e, none)
  | r :: rest =>
    match e.register r with
    | (e, none) => e.registerAll rest
    | (e, some err) => (e, some err)

/-- The rules that pass a filter. -/
def list (e : RuleEngine) (f : RuleFilter) : List Rule := e.rules.toList.filter (fun r => f.accepts r.info)

/-- The rule of an id. -/
def get? (e : RuleEngine) (id : String) : Option Rule := e.index[id]?.bind (e.rules[·]?)

/-- The number of rules. -/
def count (e : RuleEngine) : Nat := e.rules.size

/-- The evaluation of a target by the rules that apply to it. -/
def evaluate (e : RuleEngine) (t : Target) : Evaluation := Rule.evaluateAll e.rules.toList t

/-- The evaluation of several targets, in their order. -/
def evaluateMany (e : RuleEngine) (ts : List Target) : Evaluation :=
  ts.foldl (fun sofar t => sofar ++ e.evaluate t) .empty

end RuleEngine

end InfraAudit
