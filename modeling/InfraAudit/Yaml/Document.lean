import InfraAudit.Yaml.Node
import InfraAudit.Yaml.Scalar
import InfraAudit.Yaml.Token.Lexer

/-!
The value of a YAML document.

An alias stands for the node that bears the number of its anchor, and the node may
well hold the alias itself: the depth of the value is limited, and so is the number
of aliases that are followed. A mapping becomes an object whose keys are the texts
of the scalars before the colons, whatever those scalars denote.
-/
namespace InfraAudit.Yaml

/-- What the nodes of a document are read with. -/
structure Targets where
  /-- The nodes with anchors, the last of a number first. -/
  nodes : List (Nat × Node)
  /-- The number of aliases that may be followed. -/
  limit : Nat

/-- A computation that counts the aliases it follows and may fail. -/
abbrev Following (α : Type) := StateT Nat Option α

/-- The node that an alias stands for, or the node itself. -/
def Targets.follow (t : Targets) (n : Node) : Following Node := do
  match n with
  | .alias number =>
    let followed ← get
    if t.limit < followed + 1 then failure
    set (followed + 1)
    match t.nodes.lookup number with
    | some target => return target
    | none => failure
  | _ => return n

/-- The text of a key. -/
def Targets.keyText (t : Targets) (n : Node) : Following String := do
  match ← t.follow n with
  | .scalar _ _ text _ => return text
  | _ => failure

/-- The value of a node that may hold `depth` collections inside each other. -/
def Targets.value (t : Targets) : (depth : Nat) → Node → Following Value
  | depth, n => do
    match ← t.follow n with
    | .scalar _ tag text plain =>
      match scalarValue? tag text plain with
      | some v => return v
      | none => failure
    | .sequence _ tag items =>
      if tag.any isLocalTag then failure
      match depth with
      | 0 => failure
      | depth + 1 => return .array (← items.mapM (t.value depth))
    | .mapping _ tag entries =>
      if tag.any isLocalTag then failure
      match depth with
      | 0 => failure
      | depth + 1 =>
        let fields ← entries.mapM fun (k, v) => do
          let key ← t.keyText k
          return (key, ← t.value depth v)
        return Value.ofFields fields
    | .alias _ => failure

/-- The number of collections that may stand inside each other. -/
def deepest : Nat := 128

/-- How many times as many aliases may be followed as a document has marks. -/
def aliasesPerMark : Nat := 100

/-- The value of a document's node. -/
def Node.value? (root : Node) : Option Value :=
  let t : Targets := ⟨root.anchored.reverse, root.size * aliasesPerMark⟩
  ((t.value deepest root).run 0).map Prod.fst

/-- The value that a text of a single document denotes. -/
def parse? (text : String) : Option Value := do
  let root ← Node.ofTokens? (← tokens? text)
  root.value?

end InfraAudit.Yaml
