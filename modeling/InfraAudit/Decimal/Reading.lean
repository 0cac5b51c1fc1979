/-!
Reading decimal notation as a double.

A decimal has an optional sign, digits with an optional point among or around
them, and an optional exponent. It is read as the nearest double; a magnitude
beyond the greatest double is read as infinite.
-/
namespace InfraAudit.Decimal

/-- The number that some decimal digits denote. -/
def digitsValue (digits : List Char) : Nat :=
  digits.foldl (fun n c => 10 * n + (c.toNat - '0'.toNat)) 0

/-- A sign and the text after it. -/
def splitSign : List Char → Bool × List Char
  | '-' :: rest => (true, rest)
  | '+' :: rest => (false, rest)
  | text => (false, text)

/-- The exponent that ends a decimal; no text is the exponent zero. -/
def exponent? : List Char → Option Int
  | [] => some 0
  | c :: rest =>
    if c = 'e' ∨ c = 'E' then
      let (negative, digits) := splitSign rest
      if digits.isEmpty || !digits.all Char.isDigit then none
      else
        let magnitude : Int := digitsValue digits
        some (if negative then -magnitude else magnitude)
    else none

/-- The decimal exponent from which on a positive number is no finite double. -/
def beyond : Int := 400

/-- The double nearest to `digits · 10^exponent`. -/
def nearest (digits : Nat) (exponent : Int) : Float :=
  let lead := exponent + (Nat.toDigits 10 digits).length
  if digits = 0 ∨ lead < -beyond then 0.0
  else if beyond < lead then 1.0 / 0.0
  else Float.ofScientific digits (exponent < 0) exponent.natAbs

/-- The double that a text in decimal notation denotes. -/
def toDouble? (text : List Char) : Option Float :=
  let (negative, unsigned) := splitSign text
  let whole := unsigned.takeWhile Char.isDigit
  let afterWhole := unsigned.dropWhile Char.isDigit
  let (fraction, tail) :=
    match afterWhole with
    | '.' :: rest => (rest.takeWhile Char.isDigit, rest.dropWhile Char.isDigit)
    | _ => ([], afterWhole)
  if whole.isEmpty && fraction.isEmpty then none
  else
    (exponent? tail).map fun e =>
      let f := nearest (digitsValue (whole ++ fraction)) (e - fraction.length)
      if negative then -f else f

end InfraAudit.Decimal
