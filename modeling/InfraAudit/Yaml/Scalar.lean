import InfraAudit.Decimal.Reading
import InfraAudit.Value
import InfraAudit.Yaml.Token

/-!
What scalars denote.

A plain scalar is a null, a boolean, a number or a string by its spelling; a quoted
one is a string. A tag of the core types asks for one of them.
-/
namespace InfraAudit.Yaml

/-- The spellings of null. -/
def isNullWord (text : String) : Bool := ["null", "Null", "NULL", "~"].contains text

/-- The boolean that a text spells. -/
def boolWord? (text : String) : Option Bool :=
  if ["true", "True", "TRUE"].contains text then some true
  else if ["false", "False", "FALSE"].contains text then some false
  else none

/-! ### Integers -/

/-- The bases that a mark after a zero gives. -/
def baseOf? : Char → Option Nat
  | 'x' => some 16
  | 'o' => some 8
  | 'b' => some 2
  | _ => none

/-- The value of a digit in a base. -/
def digitIn? (base : Nat) (c : Char) : Option Nat :=
  let n :=
    if c.isDigit then c.toNat - '0'.toNat
    else if 'a' ≤ c ∧ c ≤ 'z' then c.toNat - 'a'.toNat + 10
    else if 'A' ≤ c ∧ c ≤ 'Z' then c.toNat - 'A'.toNat + 10
    else base
  if n < base then some n else none

/-- The number that at least one digit of a base denotes. -/
def naturalIn? (base : Nat) (digits : List Char) : Option Nat :=
  if digits.isEmpty then none
  else digits.foldlM (fun n c => (digitIn? base c).map (n * base + ·)) 0

/-- Whether a text is a string for all its digits: a zero followed by more digits. -/
def hasLeadingZero (text : List Char) : Bool :=
  let unsigned := (Decimal.splitSign text).2
  decide (1 < unsigned.length) && unsigned.head? == some '0' && unsigned.all Char.isDigit

/-- The number that digits denote, in the base of their mark or in base ten. -/
def natural? (unsigned : List Char) : Option Nat :=
  match unsigned with
  | '0' :: mark :: digits =>
    match baseOf? mark with
    | some base => naturalIn? base digits
    | none => naturalIn? 10 unsigned
  | _ => naturalIn? 10 unsigned

/-- The integer that a text denotes. -/
def integer? (text : List Char) : Option Int :=
  if hasLeadingZero text then none
  else
    let (negative, unsigned) := Decimal.splitSign text
    (natural? unsigned).map fun n => if negative then -(n : Int) else n

/-- What an integer becomes. Beyond 128 bits it is not taken for an integer, and
    between 64 and 128 bits it is refused. -/
inductive IntegerRead where
  | value (n : Int)
  | refused
  | other

/-- How a text is read as an integer. -/
def readInteger (text : List Char) : IntegerRead :=
  match integer? text with
  | none => .other
  | some n =>
    if -0x8000000000000000 ≤ n ∧ n ≤ 0xFFFFFFFFFFFFFFFF then .value n
    else if -0x80000000000000000000000000000000 ≤ n ∧ n ≤ 0xFFFFFFFFFFFFFFFFFFFFFFFFFFFFFFFF then
      .refused
    else .other

/-! ### Doubles -/

/-- The words for doubles that are not finite. -/
def isSpecialWord (text : String) : Bool :=
  [".inf", ".Inf", ".INF", "+.inf", "+.Inf", "+.INF", "-.inf", "-.Inf", "-.INF",
    ".nan", ".NaN", ".NAN"].contains text

/-- The value of a double that a text denotes. A number that is too large for a
    finite double is none. -/
def double? (text : String) : Option Value :=
  if isSpecialWord text then some .null
  else
    match Decimal.toDouble? text.toList with
    | some x => if x.isFinite then some (.number (.double x)) else none
    | none => none

/-! ### Scalars -/

/-- The value of a plain scalar without a tag; none when it is refused. -/
def plainValue? (text : String) : Option Value :=
  if text.isEmpty || isNullWord text then some .null
  else
    match boolWord? text with
    | some b => some (.bool b)
    | none =>
      match readInteger text.toList with
      | .value n => some (.number (.int n))
      | .refused => none
      | .other =>
        if hasLeadingZero text.toList then some (.string text)
        else some ((double? text).getD (.string text))

/-- The tag of a core type. -/
def coreTag (name : String) : TagText := asciiBytes ("tag:yaml.org,2002:" ++ name).toList

/-- Whether a tag names a type of its own rather than a core type. -/
def isLocalTag (tag : TagText) : Bool :=
  match tag with
  | [] => false
  | mark :: name => mark == UInt8.ofNat '!'.toNat && (String.fromUTF8? ⟨name.toArray⟩).isSome

/-- Whether a tag starts with the mark of tags of one's own. -/
def startsLocal (tag : TagText) : Bool := tag.head? == some (UInt8.ofNat '!'.toNat)

/-- The value of a scalar; none when its tag does not allow it. -/
def scalarValue? (tag : Option TagText) (text : String) (plain : Bool) : Option Value :=
  match tag with
  | none => if plain then plainValue? text else some (.string text)
  | some tag =>
    if isLocalTag tag then none
    else if tag = coreTag "bool" then (boolWord? text).map .bool
    else if tag = coreTag "int" then
      match readInteger text.toList with
      | .value n => some (.number (.int n))
      | _ => none
    else if tag = coreTag "float" then double? text
    else if tag = coreTag "null" then (if isNullWord text then some .null else none)
    else if startsLocal tag && plain then plainValue? text
    else some (.string text)

end InfraAudit.Yaml
