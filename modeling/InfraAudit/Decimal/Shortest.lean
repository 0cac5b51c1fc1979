/-!
The shortest decimal digits of a double.

A finite double is `m · 2^q`. The reals that round to it form an interval around
it, whose ends belong to it exactly when `m` is even. Among the decimal numbers
of that interval, those with the fewest digits count, and of these the nearest to
the double. All comparisons are made on integers.
-/
namespace InfraAudit

/-- A decimal number `digits · 10^exponent`. -/
structure Decimal where
  digits : Nat
  exponent : Int
  deriving Repr, DecidableEq

namespace Decimal

/-- A power of two. -/
def twoTo (n : Nat) : Nat := Nat.pow 2 n

/-- A power of ten. -/
def tenTo (n : Nat) : Nat := Nat.pow 10 n

/-- A positive fraction and the interval of the numbers that round to it, over one
    denominator. -/
structure Interval where
  low : Nat
  value : Nat
  high : Nat
  den : Nat
  closed : Bool

/-- The interval of a positive double given by the bits of its exponent and its
    fraction. -/
def Interval.ofBits (exponent fraction : Nat) : Interval :=
  let m := if exponent = 0 then fraction else fraction + twoTo 52
  -- One unit stands for a quarter of the distance to the next double above.
  let q : Int := (if exponent = 0 then 1 else (exponent : Int)) - 1075 - 2
  let below := if fraction = 0 ∧ 1 < exponent then 1 else 2
  let scale := twoTo q.toNat
  { low := (4 * m - below) * scale
    value := 4 * m * scale
    high := (4 * m + 2) * scale
    den := twoTo (-q).toNat
    closed := m % 2 = 0 }

/-- The number of decimal digits of a number, zero having none. -/
def digitCount (n : Nat) : Nat := if n = 0 then 0 else (Nat.toDigits 10 n).length

/-- The least `j`, counted on from `start`, with `den ≤ num · 10^j`; the search
    makes at most `fuel` steps. -/
def leastShift (num den : Nat) : (fuel start : Nat) → Nat
  | 0, start => start
  | fuel + 1, start => if den ≤ num * tenTo start then start else leastShift num den fuel (start + 1)

/-- The greatest `e` with `10^e ≤ num / den`, for a positive fraction of doubles. -/
def magnitude (num den : Nat) : Int :=
  if den ≤ num then (digitCount (num / den) : Int) - 1 else -(leastShift num den 400 1 : Int)

/-- Whether `digits · 10^exponent` lies in an interval. -/
def Interval.contains (i : Interval) (digits : Nat) (exponent : Int) : Bool :=
  let point := digits * tenTo exponent.toNat * i.den
  let shift := tenTo (-exponent).toNat
  if i.closed then decide (i.low * shift ≤ point ∧ point ≤ i.high * shift)
  else decide (i.low * shift < point ∧ point < i.high * shift)

/-- The number of the interval with step `10^exponent` that is nearest to the
    value; of two equally near ones the even one. -/
def Interval.onGrid? (i : Interval) (exponent : Int) : Option Nat :=
  let step := tenTo exponent.toNat * i.den
  let scaled := i.value * tenTo (-exponent).toNat
  let below := scaled / step
  let rest := scaled % step
  let lowFits := i.contains below exponent
  let highFits := i.contains (below + 1) exponent
  match lowFits, highFits with
  | true, true =>
    if 2 * rest < step ∨ (2 * rest = step ∧ below % 2 = 0) then some below else some (below + 1)
  | true, false => some below
  | false, true => some (below + 1)
  | false, false => none

/-- A decimal without the zeros its digits end with. -/
def strip : (fuel : Nat) → Decimal → Decimal
  | 0, d => d
  | fuel + 1, d =>
    if d.digits ≠ 0 ∧ d.digits % 10 = 0 then strip fuel ⟨d.digits / 10, d.exponent + 1⟩ else d

/-- The first of the grids with `count` digits or more, up to 17, that meets the
    interval. Seventeen digits always do. -/
def Interval.search (i : Interval) (top : Int) : (fuel count : Nat) → Decimal
  | 0, _ => ⟨0, 0⟩
  | fuel + 1, count =>
    let exponent := top - (count : Int) + 1
    match i.onGrid? exponent with
    | some digits => strip 20 ⟨digits, exponent⟩
    | none => search i top fuel (count + 1)

/-- The shortest decimal that reads back as the double of the given bits, its
    sign apart. -/
def shortestOfBits (exponent fraction : Nat) : Decimal :=
  if exponent = 0 ∧ fraction = 0 then ⟨0, 0⟩
  else
    let i := Interval.ofBits exponent fraction
    i.search (magnitude i.value i.den) 17 1

/-- Whether the sign bit of a double is set. -/
def isNegative (x : Float) : Bool := x.toBits.toNat / twoTo 63 = 1

/-- The shortest decimal that reads back as the magnitude of a finite double. -/
def shortest (x : Float) : Decimal :=
  let bits := x.toBits.toNat
  shortestOfBits (bits / twoTo 52 % twoTo 11) (bits % twoTo 52)

end Decimal

end InfraAudit
