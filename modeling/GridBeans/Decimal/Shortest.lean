import GridBeans.Decimal.Double

/-!
# Shortest digits

The decimal number with the fewest digits among those that are read back as a given double, and
among these the nearest to it. A double stands for an interval of real numbers, whose ends belong
to it exactly if its mantissa is even. On each decimal grid, from one digit to seventeen, only the
two neighbours of the double have to be tested against that interval.
-/
namespace GridBeans.Decimal

/-- Which of two decimals at the same distance is taken. -/
inductive Tie where
  | toEven | up
  deriving DecidableEq, Repr

/-- The real numbers that round to a double, with the double itself, all over one denominator. -/
structure Interval where
  low : Nat
  value : Nat
  high : Nat
  den : Nat
  /-- The two ends round to the double too. -/
  closed : Bool
  deriving DecidableEq, Repr

/-- The interval of `mantissa * 2 ^ exponent`. Below a power of two the next double is only half
as far away, except at the least exponent. -/
def Interval.ofDouble (mantissa : Nat) (exponent : Int) : Interval :=
  let below := if mantissa = powerOfTwo 52 && leastExponent < exponent then 1 else 2
  let (unit, den) := magnitude 1 (exponent - 2)
  ⟨(4 * mantissa - below) * unit, 4 * mantissa * unit, (4 * mantissa + 2) * unit, den,
    mantissa % 2 == 0⟩

/-- The decimal `digits * 10 ^ power` rounds to the double. -/
def Interval.holds (i : Interval) (digits : Nat) (power : Int) : Bool :=
  let (point, scale) :=
    if 0 ≤ power then (digits * powerOfTen power.toNat * i.den, 1)
    else (digits * i.den, powerOfTen (-power).toNat)
  if i.closed then decide (i.low * scale ≤ point ∧ point ≤ i.high * scale)
  else decide (i.low * scale < point ∧ point < i.high * scale)

/-- The position of the first digit of a positive quotient that is at least `10 ^ (-400)`: the
largest `e` with `10 ^ e ≤ num / den`. -/
def floorLog10 (num den : Nat) : Int :=
  ((Nat.toDigits 10 (num * powerOfTen 400 / den)).length : Int) - 401

/-- The decimal on the grid of `10 ^ power` that rounds to the double, the nearer one of two. -/
def Interval.onGrid? (i : Interval) (tie : Tie) (power : Int) : Option Nat :=
  let (num, den) :=
    if 0 ≤ power then (i.value, i.den * powerOfTen power.toNat)
    else (i.value * powerOfTen (-power).toNat, i.den)
  let lower := num / den
  let twice := 2 * (num % den)
  let upperFirst :=
    if twice = den then (match tie with | .up => true | .toEven => lower % 2 == 1)
    else decide (den < twice)
  let (first, second) := if upperFirst then (lower + 1, lower) else (lower, lower + 1)
  if i.holds first power then some first
  else if i.holds second power then some second
  else none

/-- The first grid with a hit, starting at a power of ten and going down. -/
def Interval.search (i : Interval) (tie : Tie) (power : Int) : Nat → Nat × Int
  | 0 => (i.value * powerOfTen (-power).toNat / i.den, power)
  | tries + 1 =>
    match i.onGrid? tie power with
    | some digits => (digits, power)
    | none => i.search tie (power - 1) tries

/-- Drops trailing zeros of the digits, at most as many as the count says. -/
def stripZeros : Nat → Nat × Int → Nat × Int
  | 0, d => d
  | count + 1, (digits, power) =>
    if digits % 10 = 0 then stripZeros count (digits / 10, power + 1) else (digits, power)

/-- The digits and the power of ten of the shortest decimal for a positive finite double. -/
def shortest (tie : Tie) (mantissa : Nat) (exponent : Int) : Nat × Int :=
  let i := Interval.ofDouble mantissa exponent
  stripZeros 20 (i.search tie (floorLog10 i.value i.den) 17)

end GridBeans.Decimal
