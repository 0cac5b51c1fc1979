import InfraAudit.Record.Decoder
import InfraAudit.Text.Blank
import InfraAudit.Validation

/-!
Resources of a cluster and how they are read from documents.
-/
namespace InfraAudit.Cluster

open Record

/-- What identifies a resource. -/
structure Metadata where
  name : String
  namespaceName : Option String
  labels : Option (List (String × String))
  annotations : Option (List (String × String))

/-- A resource of a cluster; `raw` is the document it was read from. -/
structure Resource where
  apiVersion : String
  kind : String
  metadata : Metadata
  spec : Option Fields
  status : Option Fields
  raw : Value

/-! ### Reading documents -/

/-- The metadata that stands in for what cannot be read. -/
def Metadata.unread : Metadata := ⟨"", none, none, none⟩

/-- Checks the metadata of a document. It is read when the name could be read. -/
def Metadata.check (v : Value) : Checked (Option Metadata) :=
  (v.requireObject "metadata" "").ifRead fun m => do
    let name ← m.requireStr "name" "metadata"
    let namespaceName ← m.optionalStr "namespace" "metadata"
    let labels ← m.optionalStrings "labels" "metadata"
    let annotations ← m.optionalStrings "annotations" "metadata"
    pure (name.map fun name => { name, namespaceName, labels, annotations })

/-- Checks that a kind is not blank, where it could be read. -/
def checkKindText : Option String → Checked Unit
  | none => pure ()
  | some kind =>
    .require (!Text.isBlankText kind) ⟨"kind", "must not be blank, received " ++ Text.ticked kind⟩

namespace Resource

/-- Checks the fields of a document. An empty text stands in for a version or a kind
    that cannot be read. -/
def check (v : Value) : Checked Resource := do
  let apiVersion ← v.requireStr "apiVersion" ""
  let kind ← v.requireStr "kind" ""
  let metadata ← Metadata.check v
  let spec ← v.optionalObject "spec" ""
  let status ← v.optionalObject "status" ""
  checkKindText kind
  pure
    { apiVersion := apiVersion.getD ""
      kind := kind.getD ""
      metadata := metadata.getD .unread
      spec, status, raw := v }

/-- The resource that a document is. -/
def ofValue (v : Value) : Except ValidationError Resource :=
  if v.isObject then (check v).finish else .error ⟨[.mismatch "" "object" v]⟩

/-! ### Names -/

/-- The name of a resource. -/
def name (r : Resource) : String := r.metadata.name

/-- The namespace of a resource, if it names one. -/
def namespaceName (r : Resource) : Option String := r.metadata.namespaceName

/-- The namespace of resources that do not name one. -/
def defaultNamespace : String := "default"

/-- The namespace of a resource. -/
def namespaceOrDefault (r : Resource) : String := r.namespaceName.getD defaultNamespace

/-! ### Resources as values -/

/-- A map of texts as a value. -/
def encodeTexts (entries : List (String × String)) : Value :=
  .object (entries.map fun (k, s) => (k, .string s))

/-- Metadata as a value. -/
def encodeMetadata (m : Metadata) : Value :=
  .object (
    [("name", .string m.name)] ++
    fieldIfSome "namespace" Value.string m.namespaceName ++
    fieldIfSome "labels" encodeTexts m.labels ++
    fieldIfSome "annotations" encodeTexts m.annotations)

/-- A resource as a value, without the document it was read from. -/
def encode (r : Resource) : Value :=
  .object (
    [("apiVersion", .string r.apiVersion),
      ("kind", .string r.kind),
      ("metadata", encodeMetadata r.metadata)] ++
    fieldIfSome "spec" Value.object r.spec ++
    fieldIfSome "status" Value.object r.status)

/-! ### Selections and groups -/

/-- The resources of a kind. -/
def ofKind (kind : String) (rs : List Resource) : List Resource := rs.filter (·.kind == kind)

/-- The resources that name a namespace. -/
def inNamespace (ns : String) (rs : List Resource) : List Resource :=
  rs.filter (·.namespaceName == some ns)

/-- Adds a resource at the end of the group of a key; groups are ordered by key. -/
def addToGroup (key : String) (r : Resource) :
    List (String × List Resource) → List (String × List Resource)
  | [] => [(key, [r])]
  | (k, group) :: rest =>
    if key < k then (key, [r]) :: (k, group) :: rest
    else if key = k then (k, group ++ [r]) :: rest
    else (k, group) :: addToGroup key r rest

/-- Groups resources by a key, in the order of the keys. -/
def groupBy (key : Resource → String) (rs : List Resource) : List (String × List Resource) :=
  rs.foldl (fun groups r => addToGroup (key r) r groups) []

/-- Groups resources by kind. -/
def groupByKind (rs : List Resource) : List (String × List Resource) := groupBy kind rs

/-- Groups resources by namespace; those that name none belong to the default one. -/
def groupByNamespace (rs : List Resource) : List (String × List Resource) :=
  groupBy namespaceOrDefault rs

end Resource

end InfraAudit.Cluster
