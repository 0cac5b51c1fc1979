import InfraAudit.Json.Printer
import InfraAudit.Text.Quoted

/-!
Why a value is not a record.
-/
namespace InfraAudit.Record

/-- Why a value cannot be decoded as a record. -/
inductive DecodeError where
  /-- The value is of another type than the expected one. -/
  | wrongType (found expected : String)
  /-- The value is of the expected type, but not one that may stand here. -/
  | wrongValue (found expected : String)
  | missingField (name : String)
  /-- A name is not one of the names of an enumeration. -/
  | unknownVariant (name : String) (names : List String)
  /-- A list of fields is too short or too long. -/
  | wrongLength (length : Nat) (expected : String)
  deriving DecidableEq, Repr

/-- How messages speak of a value. -/
def describe : Value → String
  | .null => "null"
  | .bool b => "boolean " ++ Text.ticked (if b then "true" else "false")
  | .number (.int n) => "integer " ++ Text.ticked (toString n)
  | .number (.double x) => "floating point " ++ Text.ticked (Json.doubleText x)
  | .string s => "string " ++ Text.quoted s
  | .array _ => "sequence"
  | .object _ => "map"

/-- The names that an enumeration has, as a choice. -/
def choice : List String → String
  | [] => "nothing"
  | [a] => Text.ticked a
  | [a, b] => Text.ticked a ++ " or " ++ Text.ticked b
  | names => "one of " ++ String.intercalate ", " (names.map Text.ticked)

namespace DecodeError

/-- The error of a value of a type that is not expected. -/
def mismatch (found : Value) (expected : String) : DecodeError := .wrongType (describe found) expected

/-- An error as text. -/
def message : DecodeError → String
  | .wrongType found expected => "invalid type: " ++ found ++ ", expected " ++ expected
  | .wrongValue found expected => "invalid value: " ++ found ++ ", expected " ++ expected
  | .missingField name => "missing field " ++ Text.ticked name
  | .unknownVariant name names =>
    "unknown variant " ++ Text.ticked name ++ ", expected " ++ choice names
  | .wrongLength length expected =>
    "invalid length " ++ toString length ++ ", expected " ++ expected

end DecodeError

end InfraAudit.Record
