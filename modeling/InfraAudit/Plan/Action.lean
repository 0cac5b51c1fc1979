import InfraAudit.Record.Decoder
import InfraAudit.Text.Case

/-!
What a plan does to a resource.

A change lists the raw actions of its steps; a resource as a whole is classified by
a single action.
-/
namespace InfraAudit.Plan

/-- A raw action of a change. -/
inductive ChangeAction where
  | noOp
  | create
  | read
  | update
  | delete
  deriving DecidableEq, Repr

namespace ChangeAction

/-- The names of the raw actions. -/
def names : List (String × ChangeAction) :=
  [("no-op", .noOp), ("create", .create), ("read", .read), ("update", .update), ("delete", .delete)]

/-- The name of a raw action. -/
def name : ChangeAction → String
  | .noOp => "no-op"
  | .create => "create"
  | .read => "read"
  | .update => "update"
  | .delete => "delete"

/-- The raw action of a name. -/
def parse? (name : String) : Option ChangeAction := names.lookup name

/-- The raw action that a value names. -/
def ofValue? (v : Value) : Option ChangeAction := v.str?.bind parse?

/-- A raw action as a value. -/
def encode (a : ChangeAction) : Value := .string a.name

/-- Decodes a raw action. -/
def decode : Record.Decoder ChangeAction := Record.enumeration names

@[simp] theorem ofValue?_encode (a : ChangeAction) : ofValue? a.encode = some a := by cases a <;> rfl

end ChangeAction

/-- The action that a resource is classified by. -/
inductive Action where
  | create
  | update
  | delete
  | noOp
  deriving DecidableEq, Repr

namespace Action

/-- The names of the actions. -/
def names : List (String × Action) :=
  [("create", .create), ("update", .update), ("delete", .delete), ("no-op", .noOp)]

/-- The name of an action. -/
def name : Action → String
  | .create => "create"
  | .update => "update"
  | .delete => "delete"
  | .noOp => "no-op"

/-- The action of a change. Creation counts before deletion and deletion before an
    update, so that a replacement is a creation. -/
def classify (actions : List ChangeAction) : Action :=
  if .create ∈ actions then .create
  else if .delete ∈ actions then .delete
  else if .update ∈ actions then .update
  else .noOp

/-- The action of a name, in any case. -/
def parse? (name : String) : Option Action :=
  (names ++ [("noop", Action.noOp)]).lookup (Text.lower name)

/-- An action as a value. -/
def encode (a : Action) : Value := .string a.name

/-- Decodes an action. -/
def decode : Record.Decoder Action := Record.enumeration names

@[simp] theorem decode_encode (a : Action) : decode a.encode = .ok a := by cases a <;> rfl

end Action

/-- Whether a resource is managed by the plan or only read. -/
inductive Mode where
  | managed
  | data
  deriving DecidableEq, Repr

namespace Mode

/-- The name of a mode. -/
def name : Mode → String
  | .managed => "managed"
  | .data => "data"

/-- The mode of a name. -/
def parse? (name : String) : Option Mode := [("managed", Mode.managed), ("data", .data)].lookup name

end Mode

end InfraAudit.Plan
