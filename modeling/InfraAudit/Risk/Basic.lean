import InfraAudit.Record.Decoder

/-!
The triage of planned resources by risk.

Levels of risk are a scale of their own and have nothing to do with the severities
of findings. An analysis collects concerns; each raises the level, and none is
noted twice.
-/
namespace InfraAudit.Risk

open Record

/-- A level of risk. -/
inductive Level where
  | low
  | medium
  | high
  | critical
  deriving DecidableEq, Repr, Inhabited

namespace Level

/-- The names of the levels. -/
def names : List (String × Level) :=
  [("low", .low), ("medium", .medium), ("high", .high), ("critical", .critical)]

/-- The name of a level. -/
def name : Level → String
  | .low => "low"
  | .medium => "medium"
  | .high => "high"
  | .critical => "critical"

/-- The place of a level in the order from the lowest to the highest. -/
def rank : Level → Nat
  | .low => 0
  | .medium => 1
  | .high => 2
  | .critical => 3

/-- A level raised to another one, if that is higher. -/
def raise (current level : Level) : Level := if current.rank < level.rank then level else current

/-- Raising a level gives the higher of the two. -/
theorem rank_raise (current level : Level) :
    (current.raise level).rank = max current.rank level.rank := by
  cases current <;> cases level <;> rfl

/-- A level as a value. -/
def encode (l : Level) : Value := .string l.name

/-- Decodes a level. -/
def decode : Decoder Level := enumeration names

@[simp] theorem decode_encode (l : Level) : decode l.encode = .ok l := by cases l <;> rfl

end Level

/-- A concern, what to do about it, and the level of its risk. -/
structure Concern where
  text : String
  recommendation : String
  level : Level
  deriving DecidableEq, Repr

/-- The analysis of a resource. -/
structure Analysis where
  address : String
  resourceType : String
  concerns : List String
  recommendations : List String
  level : Level
  deriving DecidableEq, Repr

namespace Analysis

/-- The analysis without concerns. -/
def clear (address resourceType : String) : Analysis :=
  { address, resourceType, concerns := [], recommendations := [], level := .low }

/-- Notes a concern. One that is noted already is not noted again. -/
def flag (a : Analysis) (c : Concern) : Analysis :=
  let level := a.level.raise c.level
  if a.concerns.contains c.text then { a with level }
  else
    { a with
      level
      concerns := a.concerns ++ [c.text]
      recommendations := a.recommendations ++ [c.recommendation] }

/-- Whether there are concerns. -/
def hasConcerns (a : Analysis) : Bool := !a.concerns.isEmpty

/-- An analysis as a value. -/
def encode (a : Analysis) : Value :=
  .object
    [("address", .string a.address),
      ("type", .string a.resourceType),
      ("concerns", encodeList Value.string a.concerns),
      ("recommendations", encodeList Value.string a.recommendations),
      ("riskLevel", a.level.encode)]

/-- The shape of an analysis. -/
def shape : Shape := ⟨"ResourceAnalysis", 5⟩

/-- Decodes an analysis. -/
def decode : Decoder Analysis :=
  record shape fun s =>
    (fun address resourceType concerns recommendations level =>
        { address, resourceType, concerns, recommendations, level })
      <$> s.field shape 0 "address" string .required
      <*> s.field shape 1 "type" string .required
      <*> s.field shape 2 "concerns" (list string) .required
      <*> s.field shape 3 "recommendations" (list string) .required
      <*> s.field shape 4 "riskLevel" Level.decode .required

end Analysis

/-- A concern that is noted when a condition holds. -/
def concernIf (condition : Bool) (c : Concern) : List Concern := if condition then [c] else []

/-- Whether the array under a key holds one of some strings. -/
def listsAny (v : Value) (key : String) (needles : List String) : Bool :=
  (v.entries key).any (fun item => item.str?.any needles.contains)

end InfraAudit.Risk
