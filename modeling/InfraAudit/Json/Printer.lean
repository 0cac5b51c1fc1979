import InfraAudit.Value
import InfraAudit.Decimal.Shortest

/-!
The JSON text of a value, on one line (`Value.compact`) or indented by two
spaces (`Value.pretty`). Fields are written in the order in which the object
holds them.
-/
namespace InfraAudit.Json

/-! ### Numbers -/

/-- The least and greatest decimal exponents that are written without an
    exponent mark. -/
def plainExponents : Int × Int := (-5, 15)

/-- A positive decimal: plainly, with a fraction of at least one digit, or with
    one digit before the point and a signed exponent. -/
def decimalText (d : Decimal) : String :=
  let digits := Nat.toDigits 10 d.digits
  let lead : Int := d.exponent + digits.length - 1
  if plainExponents.1 ≤ lead ∧ lead ≤ plainExponents.2 then
    if 0 ≤ d.exponent then
      String.ofList (digits ++ List.replicate d.exponent.toNat '0') ++ ".0"
    else if 0 ≤ lead then
      let whole := lead.toNat + 1
      String.ofList (digits.take whole) ++ "." ++ String.ofList (digits.drop whole)
    else
      "0." ++ String.ofList (List.replicate (-lead - 1).toNat '0' ++ digits)
  else
    let fraction := digits.drop 1
    String.ofList (digits.take 1) ++ (if fraction.isEmpty then "" else "." ++ String.ofList fraction)
      ++ "e" ++ (if 0 ≤ lead then "+" else "-") ++ toString lead.natAbs

/-- A finite double in the fewest digits that read back as the same double. -/
def doubleText (x : Float) : String :=
  let sign := if Decimal.isNegative x then "-" else ""
  let d := Decimal.shortest x
  if d.digits = 0 then sign ++ "0.0" else sign ++ decimalText d

/-- A number as text. -/
def numberText : Number → String
  | .int n => toString n
  | .double x => doubleText x

/-! ### Strings -/

/-- A hexadecimal digit in lower case. -/
def hexDigit (n : Nat) : Char := Nat.digitChar (n % 16)

/-- A character within quotes. Quotes, backslashes and control characters are
    escaped, and nothing else. -/
def escapeChar (c : Char) : List Char :=
  if c = '"' then ['\\', '"']
  else if c = '\\' then ['\\', '\\']
  else if c = '\n' then ['\\', 'n']
  else if c = '\r' then ['\\', 'r']
  else if c = '\t' then ['\\', 't']
  else if c = '\x08' then ['\\', 'b']
  else if c = '\x0c' then ['\\', 'f']
  else if c.toNat < 0x20 then ['\\', 'u', '0', '0', hexDigit (c.toNat / 16), hexDigit c.toNat]
  else [c]

/-- A text within quotes. -/
def quoted (s : String) : String := "\"" ++ String.ofList (s.toList.flatMap escapeChar) ++ "\""

end Json

namespace Value

open Json

/-! ### Values on one line -/

mutual

/-- The text of a value without any white space. -/
def compact : Value → String
  | .null => "null"
  | .bool b => if b then "true" else "false"
  | .number n => numberText n
  | .string s => quoted s
  | .array items => "[" ++ compactItems items ++ "]"
  | .object fields => "\x7b" ++ compactFields fields ++ "\x7d"

/-- The texts of the items of an array, separated by commas. -/
def compactItems : List Value → String
  | [] => ""
  | [v] => compact v
  | v :: rest => compact v ++ "," ++ compactItems rest

/-- The texts of the fields of an object, separated by commas. -/
def compactFields : Fields → String
  | [] => ""
  | [(k, v)] => quoted k ++ ":" ++ compact v
  | (k, v) :: rest => quoted k ++ ":" ++ compact v ++ "," ++ compactFields rest

end

/-! ### Indented values -/

/-- A line break and the indentation of a depth. -/
def breakLine (depth : Nat) : String := "\n" ++ String.ofList (List.replicate (2 * depth) ' ')

mutual

/-- The indented text of a value that stands at a depth. -/
def prettyAt (depth : Nat) : Value → String
  | .null => "null"
  | .bool b => if b then "true" else "false"
  | .number n => numberText n
  | .string s => quoted s
  | .array [] => "[]"
  | .array items => "[" ++ prettyItems (depth + 1) items ++ breakLine depth ++ "]"
  | .object [] => "\x7b\x7d"
  | .object fields => "\x7b" ++ prettyFields (depth + 1) fields ++ breakLine depth ++ "\x7d"

/-- The items of an array, each on its own lines. -/
def prettyItems (depth : Nat) : List Value → String
  | [] => ""
  | [v] => breakLine depth ++ prettyAt depth v
  | v :: rest => breakLine depth ++ prettyAt depth v ++ "," ++ prettyItems depth rest

/-- The fields of an object, each on its own lines. -/
def prettyFields (depth : Nat) : Fields → String
  | [] => ""
  | [(k, v)] => breakLine depth ++ quoted k ++ ": " ++ prettyAt depth v
  | (k, v) :: rest =>
    breakLine depth ++ quoted k ++ ": " ++ prettyAt depth v ++ "," ++ prettyFields depth rest

end

/-- The indented text of a value, closed by a line feed. -/
def pretty (v : Value) : String := prettyAt 0 v ++ "\n"

end Value

end InfraAudit
