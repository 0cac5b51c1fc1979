import InfraAudit.Cluster.Container
import InfraAudit.Cluster.Resource
import InfraAudit.Rule.Basic

/-!
The pods of workloads: where a resource keeps the description of its pods, and the
containers and security settings found there.
-/
namespace InfraAudit.Cluster

/-- The kinds of resources that have pods. -/
def workloadKinds : List String := ["Pod", "Deployment", "StatefulSet", "DaemonSet"]

/-- The description of a pod and the path at which it stands. -/
structure PodSpec where
  fields : Fields
  path : String

/-- The description of the pods of a resource of a kind. -/
def PodSpec.find? (kind : String) (spec : Option Fields) : Option PodSpec := do
  let spec ← spec
  if kind == "Pod" then return ⟨spec, "spec"⟩
  else if workloadKinds.contains kind then
    let template ← spec.lookup "template"
    let pod ← template.field? "spec"
    return ⟨← pod.fields?, "spec.template.spec"⟩
  else none

/-- Decodes the containers of a list from an index on. -/
def PodSpec.decodeContainers (path : String) (i : Nat) :
    List Value → Except RuleError (List Container)
  | [] => .ok []
  | v :: rest =>
    match Container.decode v with
    | .error e => .error (.malformed (FieldPath.item path i) e.message)
    | .ok c => (decodeContainers path (i + 1) rest).map (c :: ·)

/-- The containers of a pod. -/
def PodSpec.containers (p : PodSpec) : Except RuleError (List Container) :=
  let path := FieldPath.field p.path "containers"
  match p.fields.lookup "containers" with
  | none | some .null => .ok []
  | some (.array items) => decodeContainers path 0 items
  | some _ => .error (.malformed path "expected a list of containers")

/-- The security settings of a pod. -/
def PodSpec.securityContext (p : PodSpec) : Except RuleError (Option PodSecurityContext) :=
  match p.fields.lookup "securityContext" with
  | none | some .null => .ok none
  | some v =>
    match PodSecurityContext.decode v with
    | .ok c => .ok (some c)
    | .error e => .error (.malformed (FieldPath.field p.path "securityContext") e.message)

/-- The containers of a resource of a kind. Other kinds than workloads have none. -/
def containersOf (kind : String) (spec : Option Fields) : Except RuleError (List Container) :=
  match PodSpec.find? kind spec with
  | none => .ok []
  | some pod => pod.containers

/-- The security settings of the pods of a resource of a kind. -/
def podSecurityContextOf (kind : String) (spec : Option Fields) :
    Except RuleError (Option PodSecurityContext) :=
  match PodSpec.find? kind spec with
  | none => .ok none
  | some pod => pod.securityContext

/-! ### Documents -/

/-- The kind that a document names. -/
def kindOf (document : Value) : String := (document.fieldStr? "kind").getD ""

/-- The fields under `spec` of a document. -/
def specOf (document : Value) : Except RuleError (Option Fields) :=
  match document.field? "spec" with
  | none | some .null => .ok none
  | some (.object fields) => .ok (some fields)
  | some _ => .error (.malformed "spec" "expected an object")

/-- The containers of a document. -/
def containers (document : Value) : Except RuleError (List Container) := do
  containersOf (kindOf document) (← specOf document)

/-- The security settings of the pods of a document. -/
def podSecurityContext (document : Value) : Except RuleError (Option PodSecurityContext) := do
  podSecurityContextOf (kindOf document) (← specOf document)

/-- The containers of a resource. -/
def Resource.containers (r : Resource) : Except RuleError (List Container) :=
  containersOf r.kind r.spec

/-- The security settings of the pods of a resource. -/
def Resource.podSecurityContext (r : Resource) : Except RuleError (Option PodSecurityContext) :=
  podSecurityContextOf r.kind r.spec

end InfraAudit.Cluster
