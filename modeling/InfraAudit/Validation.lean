import InfraAudit.Value

/-!
Checking documents field by field.

A check reads a part of a document as far as it can, and notes the issues that it
finds on the way. Checks follow one another, so that the issues of all parts are
collected in the order of the parts; a document becomes a record only when there is
no issue.
-/
namespace InfraAudit

/-- A problem of a document at a field, such as `spec.items[2].name`. The root of
    the document has the empty path. -/
structure FieldIssue where
  path : String
  message : String
  deriving DecidableEq, Repr

/-- An issue as text. -/
def FieldIssue.text (i : FieldIssue) : String :=
  if i.path.isEmpty then i.message else i.path ++ ": " ++ i.message

/-- The issues of a document that does not have the expected form. -/
structure ValidationError where
  issues : List FieldIssue
  deriving DecidableEq, Repr

/-- The issues in one line. -/
def ValidationError.message (e : ValidationError) : String :=
  "validation failed: " ++ String.intercalate "; " (e.issues.map FieldIssue.text)

/-- The paths of all offending fields. -/
def ValidationError.paths (e : ValidationError) : List String := e.issues.map FieldIssue.path

namespace FieldPath

/-- The path of a field of the record at a path. -/
def field (parent key : String) : String := if parent.isEmpty then key else parent ++ "." ++ key

/-- The path of an item of the list at a path. -/
def item (parent : String) (i : Nat) : String := parent ++ "[" ++ toString i ++ "]"

end FieldPath

/-- The issue of a value that is not of the expected type. -/
def FieldIssue.mismatch (path expected : String) (found : Value) : FieldIssue :=
  ⟨path, "expected " ++ expected ++ ", received " ++ found.typeName⟩

/-- The outcome of a check: what it read, and the issues that it found. -/
@[ext]
structure Checked (α : Type) where
  value : α
  issues : List FieldIssue

namespace Checked

variable {α β : Type}

/-- One check after another; the issues of the first come first. -/
def andThen (x : Checked α) (next : α → Checked β) : Checked β :=
  ⟨(next x.value).value, x.issues ++ (next x.value).issues⟩

instance : Monad Checked where
  pure a := ⟨a, []⟩
  bind := andThen

@[simp] theorem value_pure (a : α) : (pure a : Checked α).value = a := rfl

@[simp] theorem issues_pure (a : α) : (pure a : Checked α).issues = [] := rfl

@[simp] theorem value_bind (x : Checked α) (next : α → Checked β) :
    (x >>= next).value = (next x.value).value := rfl

@[simp] theorem issues_bind (x : Checked α) (next : α → Checked β) :
    (x >>= next).issues = x.issues ++ (next x.value).issues := rfl

/-- Nothing could be read because of an issue. -/
def issue (i : FieldIssue) : Checked (Option α) := ⟨none, [i]⟩

/-- An issue unless a condition holds. -/
def require (condition : Bool) (i : FieldIssue) : Checked Unit := ⟨(), if condition then [] else [i]⟩

/-- A check of what another one read, if it could be read. -/
def ifRead (x : Checked (Option α)) (next : α → Checked (Option β)) : Checked (Option β) := do
  match ← x with
  | none => pure none
  | some a => next a

/-- Checks every item of a list, giving each its index from `start` on. -/
def forItems (check : Nat → α → Checked β) : (start : Nat) → List α → Checked (List β)
  | _, [] => pure []
  | start, a :: rest => do
    let b ← check start a
    let bs ← forItems check (start + 1) rest
    pure (b :: bs)

/-- The record if there is no issue, otherwise the error that lists the issues. -/
def finish (x : Checked α) : Except ValidationError α :=
  match x.issues with
  | [] => .ok x.value
  | issues => .error ⟨issues⟩

end Checked

/-! ### Fields -/

namespace Value

/-- The string under a key. -/
def requireStr (v : Value) (key parent : String) : Checked (Option String) :=
  match v.field? key with
  | none => .issue ⟨FieldPath.field parent key, "required"⟩
  | some (.string s) => pure (some s)
  | some other => .issue (.mismatch (FieldPath.field parent key) "string" other)

/-- The string under a key, where null stands for no string. -/
def optionalStr (v : Value) (key parent : String) : Checked (Option String) :=
  match v.field? key with
  | none | some .null => pure none
  | some (.string s) => pure (some s)
  | some other => .issue (.mismatch (FieldPath.field parent key) "string" other)

/-- The items of the array under a key. -/
def requireArray (v : Value) (key parent : String) : Checked (Option (List Value)) :=
  match v.field? key with
  | none => .issue ⟨FieldPath.field parent key, "required"⟩
  | some (.array items) => pure (some items)
  | some other => .issue (.mismatch (FieldPath.field parent key) "array" other)

/-- The object under a key. -/
def requireObject (v : Value) (key parent : String) : Checked (Option Value) :=
  match v.field? key with
  | none => .issue ⟨FieldPath.field parent key, "required"⟩
  | some (.object fields) => pure (some (.object fields))
  | some other => .issue (.mismatch (FieldPath.field parent key) "object" other)

/-- The fields of the object under a key, where null stands for no object. -/
def optionalObject (v : Value) (key parent : String) : Checked (Option Fields) :=
  match v.field? key with
  | none | some .null => pure none
  | some (.object fields) => pure (some fields)
  | some other => .issue (.mismatch (FieldPath.field parent key) "object" other)

/-- A field whose value is a string. -/
def stringEntry (parent : String) (entry : String × Value) : Checked (Option (String × String)) :=
  match entry with
  | (key, .string s) => pure (some (key, s))
  | (key, other) => .issue (.mismatch (FieldPath.field parent key) "string" other)

/-- The strings of the object under a key, where each of its values is to be one. -/
def optionalStrings (v : Value) (key parent : String) :
    Checked (Option (List (String × String))) := do
  let fields ← v.optionalObject key parent
  let entries ← Checked.forItems (fun _ => stringEntry (FieldPath.field parent key)) 0 (fields.getD [])
  pure (fields.map fun _ => entries.filterMap id)

end Value

end InfraAudit
