import InfraAudit.Decimal.Reading
import InfraAudit.Value

/-!
Booleans, numbers, dates and times of TOML.
-/
namespace InfraAudit.Toml

/-- The value of a digit in a base. -/
def digitIn? (base : Nat) (c : Char) : Option Nat :=
  let n :=
    if c.isDigit then c.toNat - '0'.toNat
    else if 'a' ≤ c ∧ c ≤ 'f' then c.toNat - 'a'.toNat + 10
    else if 'A' ≤ c ∧ c ≤ 'F' then c.toNat - 'A'.toNat + 10
    else base
  if n < base then some n else none

/-- The number that exactly `count` hexadecimal digits at the start of a text
    denote. -/
def hexNumber? (count : Nat) (text : List Char) : Option Nat :=
  if text.length < count then none
  else (text.take count).foldlM (fun n c => (digitIn? 16 c).map (n * 16 + ·)) 0

/-- Digits without the underscores between them; none when an underscore does not
    stand between two digits, or there is no digit. -/
def digits? (base : Nat) : List Char → Option (List Char)
  | [] => none
  | [c] => (digitIn? base c).map fun _ => [c]
  | c :: '_' :: rest => do
    let _ ← digitIn? base c
    return c :: (← digits? base rest)
  | c :: rest => do
    let _ ← digitIn? base c
    return c :: (← digits? base rest)

/-- The integers that are read: those of 128 bits. -/
def inRange (n : Int) : Bool :=
  -0x80000000000000000000000000000000 ≤ n && n ≤ 0xFFFFFFFFFFFFFFFFFFFFFFFFFFFFFFFF

/-- The base that a mark at the start of an integer gives. -/
def marked? : List Char → Option (Nat × List Char)
  | '0' :: 'x' :: rest => some (16, rest)
  | '0' :: 'o' :: rest => some (8, rest)
  | '0' :: 'b' :: rest => some (2, rest)
  | _ => none

/-- A whole number in base ten, which starts with a zero only if it is zero. -/
def whole? (text : List Char) : Option (List Char) :=
  (digits? 10 text).filter fun ds => ds.length == 1 || ds.head? != some '0'

/-- An integer. -/
def integer? (text : List Char) : Option Value := do
  let n : Int ←
    match marked? text with
    | some (base, rest) => do
      let ds ← digits? base rest
      let n ← ds.foldlM (fun n c => (digitIn? base c).map (n * base + ·)) 0
      some (Int.ofNat n)
    | none => do
      let (negative, unsigned) := Decimal.splitSign text
      let n := Decimal.digitsValue (← whole? unsigned)
      some (if negative then -(Int.ofNat n) else Int.ofNat n)
  if inRange n then return .number (.int n) else none

/-- The exponent of a number without its underscores. -/
def exponentText? (text : List Char) : Option (List Char) :=
  match text with
  | [] => some []
  | mark :: rest =>
    let (negative, digits) := Decimal.splitSign rest
    (digits? 10 digits).map fun ds => mark :: (if negative then '-' :: ds else ds)

/-- Whether a character starts an exponent. -/
def isExponentMark (c : Char) : Bool := c == 'e' || c == 'E'

/-- A number with a fraction or an exponent, or a special one. -/
def double? (text : List Char) : Option Value := do
  let (negative, unsigned) := Decimal.splitSign text
  if unsigned = ['i', 'n', 'f'] ∨ unsigned = ['n', 'a', 'n'] then
    return .number (.double (if unsigned = ['i', 'n', 'f'] then 1.0 / 0.0 else 0.0 / 0.0))
  let mantissa := unsigned.takeWhile (fun c => !isExponentMark c)
  let exponent ← exponentText? (unsigned.dropWhile (fun c => !isExponentMark c))
  let whole ← whole? (mantissa.takeWhile (· != '.'))
  let fraction ←
    match mantissa.dropWhile (· != '.') with
    | [] => if exponent.isEmpty then none else some []
    | _ :: rest => (digits? 10 rest).map ('.' :: ·)
  let x ← Decimal.toDouble? (whole ++ fraction ++ exponent)
  if x.isFinite then return .number (.double (if negative then -x else x)) else none

/-! ### Dates and times -/

/-- The number that exactly `count` digits at the start of a text denote, with the
    text after them. -/
def fixed? (count : Nat) (text : List Char) : Option (Nat × List Char) :=
  let ds := text.take count
  if ds.length = count ∧ ds.all Char.isDigit then some (Decimal.digitsValue ds, text.drop count)
  else none

/-- The text after a given character. -/
def after? (c : Char) : List Char → Option (List Char)
  | [] => none
  | d :: rest => if c = d then some rest else none

/-- The number of days of a month. -/
def daysIn (year month : Nat) : Nat :=
  if month = 2 then
    (if (year % 4 = 0 ∧ year % 100 ≠ 0) ∨ year % 400 = 0 then 29 else 28)
  else if [4, 6, 9, 11].contains month then 30
  else 31

/-- The text after a date. -/
def date? (text : List Char) : Option (List Char) := do
  let (year, rest) ← fixed? 4 text
  let (month, rest) ← fixed? 2 (← after? '-' rest)
  let (day, rest) ← fixed? 2 (← after? '-' rest)
  if 1 ≤ month ∧ month ≤ 12 ∧ 1 ≤ day ∧ day ≤ daysIn year month then return rest else none

/-- The text after a time. -/
def time? (text : List Char) : Option (List Char) := do
  let (hour, rest) ← fixed? 2 text
  let (minute, rest) ← fixed? 2 (← after? ':' rest)
  let (second, rest) ← fixed? 2 (← after? ':' rest)
  if 23 < hour ∨ 59 < minute ∨ 60 < second then none
  match rest with
  | '.' :: fraction =>
    if fraction.head?.any Char.isDigit then return fraction.dropWhile Char.isDigit else none
  | _ => return rest

/-- Whether a text is the offset of a time. -/
def isOffset (text : List Char) : Bool :=
  match text with
  | [] => true
  | ['Z'] | ['z'] => true
  | sign :: rest =>
    (sign == '+' || sign == '-') &&
      (do
        let (hour, rest) ← fixed? 2 rest
        let (minute, rest) ← fixed? 2 (← after? ':' rest)
        return decide (hour ≤ 23 ∧ minute ≤ 59) && rest.isEmpty) == some true

/-- Whether a text is a date, a time or both. -/
def isDateTime (text : List Char) : Bool :=
  match date? text with
  | some [] => true
  | some (c :: rest) => (c == 'T' || c == 't' || c == ' ') && (time? rest).any isOffset
  | none => time? text == some []

/-- A date or time, a record of its own with its text as only field. -/
def dateTime? (text : List Char) : Option Value :=
  if isDateTime text then some (.object [("datetime", .string (String.ofList text))]) else none

/-! ### Scalars -/

/-- The value of a scalar that is not a string. -/
def scalar? (text : List Char) : Option Value :=
  if text = ['t', 'r', 'u', 'e'] then some (.bool true)
  else if text = ['f', 'a', 'l', 's', 'e'] then some (.bool false)
  else ((integer? text).or (double? text)).or (dateTime? text)

end InfraAudit.Toml
