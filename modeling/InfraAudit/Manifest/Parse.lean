import InfraAudit.Cluster.Resource
import InfraAudit.Json.Reader
import InfraAudit.Manifest.Document
import InfraAudit.Yaml.Document

/-!
Reading manifests.

The documents of a YAML stream stand for themselves: one that cannot be read is
noted in a diagnostic, and the others are read nevertheless. A JSON text is read as
a whole, or not at all.
-/
namespace InfraAudit.Manifest

open Record

/-- A document that could not be turned into a resource. -/
structure Diagnostic where
  file : Option String
  /-- The place of the document in its stream or list, counted from zero. -/
  documentIndex : Nat
  /-- The line on which the document starts, or the fault is, counted from one. -/
  line : Option Nat
  message : String
  deriving DecidableEq, Repr

namespace Diagnostic

/-- A diagnostic that names its file. -/
def withFile (d : Diagnostic) (file : String) : Diagnostic := { d with file := some file }

/-- A diagnostic as text. -/
def text (d : Diagnostic) : String :=
  (match d.file with
    | some file => file ++ ": "
    | none => "") ++
  "document " ++ toString d.documentIndex ++
  (match d.line with
    | some line => " (line " ++ toString line ++ ")"
    | none => "") ++
  ": " ++ d.message

/-- A diagnostic as a value. -/
def encode (d : Diagnostic) : Value :=
  .object (
    fieldIfSome "file" Value.string d.file ++
    [("documentIndex", encodeNat d.documentIndex)] ++
    fieldIfSome "line" encodeNat d.line ++
    [("message", .string d.message)])

/-- The shape of a diagnostic. -/
def shape : Shape := ⟨"ParseDiagnostic", 4⟩

/-- Decodes a diagnostic. -/
def decode : Decoder Diagnostic :=
  record shape fun s =>
    (fun file documentIndex line message => { file, documentIndex, line, message })
      <$> s.field shape 0 "file" (optional string) (.default none)
      <*> s.field shape 1 "documentIndex" natural .required
      <*> s.field shape 2 "line" (optional natural) (.default none)
      <*> s.field shape 3 "message" string .required

end Diagnostic

/-- The resources that were read and the documents that could not be. -/
structure ParseResult where
  resources : List Cluster.Resource
  diagnostics : List Diagnostic

/-! ### Streams -/

/-- What becomes of a document. -/
inductive Outcome where
  | resource (r : Cluster.Resource)
  | invalid (message : String)
  /-- The document is null. -/
  | skipped

namespace Outcome

/-- What becomes of a document by its value. -/
def ofValue (v : Value) : Outcome :=
  if v.isNull then .skipped
  else if v.isObject then
    match Cluster.Resource.ofValue v with
    | .ok r => .resource r
    | .error e => .invalid e.message
  else .invalid "document is not a mapping"

/-- What becomes of a document by its text. One that is no YAML is noted without the
    reason of the reader. -/
def ofText (text : String) : Outcome :=
  match Yaml.parse? text with
  | some v => ofValue v
  | none => .invalid "invalid YAML"

/-- The resource of a document. -/
def resource? : Outcome → Option Cluster.Resource
  | .resource r => some r
  | _ => none

/-- The diagnostic of a document that has an index and starts on a line. -/
def diagnostic? (index line : Nat) : Outcome → Option Diagnostic
  | .invalid message => some ⟨none, index, some line, message⟩
  | _ => none

end Outcome

/-- The outcomes of the documents of a stream. -/
def outcomes (text : String) : List Outcome := (documents text).map (fun d => Outcome.ofText d.text)

/-- Reads a YAML stream. -/
def parseYaml (text : String) : ParseResult :=
  let starts := (documents text).map Run.start
  let outcomes := outcomes text
  { resources := outcomes.filterMap Outcome.resource?
    diagnostics := (starts.zip outcomes).zipIdx.filterMap fun ((line, o), i) => o.diagnostic? i line }

/-! ### Lists -/

/-- Reads the items of a list from an index on: all resources, or the diagnostic of
    the first item that is none. -/
def readItems (i : Nat) : List Value → Except Diagnostic (List Cluster.Resource)
  | [] => .ok []
  | v :: rest =>
    match Cluster.Resource.ofValue v with
    | .error e => .error ⟨none, i, none, e.message⟩
    | .ok r => (readItems (i + 1) rest).map (r :: ·)

/-- The items of a document: those of a list, or the document itself. -/
def itemsOf : Value → List Value
  | .array items => items
  | v => [v]

/-- Reads a JSON text: a resource or a list of resources. One that is no JSON is noted
    with the line of its fault, without the reason of the reader. -/
def parseJson (text : String) : ParseResult :=
  match Json.parse text with
  | .error e => ⟨[], [⟨none, 0, some e.line, "invalid JSON"⟩]⟩
  | .ok v =>
    match readItems 0 (itemsOf v) with
    | .error d => ⟨[], [d]⟩
    | .ok rs => ⟨rs, []⟩

/-! ### Files -/

/-- The encodings of manifests. -/
inductive Format where
  | yaml
  | json
  deriving DecidableEq, Repr

/-- The encoding by the extension of a file's name. -/
def Format.ofExtension? (extension : String) : Option Format :=
  if extension == "yaml" || extension == "yml" then some .yaml
  else if extension == "json" then some .json
  else none

/-- The name of an encoding. -/
def Format.name : Format → String
  | .yaml => "yaml"
  | .json => "json"

/-- Reads a manifest in an encoding. -/
def parse (text : String) : Format → ParseResult
  | .yaml => parseYaml text
  | .json => parseJson text

end InfraAudit.Manifest
