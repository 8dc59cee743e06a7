import GridBeans.Decimal.Layout

/-!
# JSON numbers

A number literal and the number it stands for. A literal without fraction and exponent is an
integer if it fits a signed or an unsigned word of 64 bits, and minus zero is not an integer;
every other literal is a double.
-/
namespace GridBeans.Json

open GridBeans.Decimal (Double Layout powerOfTwo)

/-- A number as it is written: its sign, its digits before and after the point, and its exponent
with its sign. -/
structure Literal where
  negative : Bool
  whole : List Nat
  fraction : List Nat
  exponent : Option (Bool × List Nat)
  deriving DecidableEq, Repr

inductive Number where
  | integer (value : Int)
  | double (value : Double)
  deriving DecidableEq, Repr

/-- One past the greatest unsigned word. -/
def wordModulus : Nat := powerOfTwo 64

/-- The greatest exponent that is read as written. -/
def exponentBound : Nat := powerOfTwo 31 - 1

/-- The digits that fit one word, as a number, and the digits after them. -/
def leadingWord (digits : List Nat) (significand : Nat) : Nat × List Nat :=
  match digits with
  | [] => (significand, [])
  | d :: rest =>
    if 10 * significand + d < wordModulus then leadingWord rest (10 * significand + d)
    else (significand, d :: rest)

/-- The powers of ten that are used as a factor. -/
def greatestPower : Nat := 308

/-- A word times a power of ten, computed by at most three roundings for each factor: the word
itself, the power, and their product or quotient. None if the result is too large. -/
def scaled (value : Double) (exponent : Int) : Nat → Option Double
  | 0 => some value
  | steps + 1 =>
    if exponent.natAbs ≤ greatestPower then
      let factor := Double.ofDecimal false 1 exponent.natAbs
      if 0 ≤ exponent then
        let product := value.mul factor
        if product.isFinite then some product else none
      else some (value.div factor)
    else if value.isZero then some value
    else if 0 ≤ exponent then none
    else
      scaled (value.div (Double.ofDecimal false 1 greatestPower)) (exponent + greatestPower) steps

/-- The exponent of a literal: its value, or none if it exceeds the bound. -/
def exponentValue (digits : List Nat) : Option Nat :=
  let value := digits.foldl (fun acc d => min (10 * acc + d) (exponentBound + 1)) 0
  if value ≤ exponentBound then some value else none

/-- The double that a significand with an exponent stands for. -/
def signedDouble (negative : Bool) (significand : Nat) (exponent : Int) : Option Number :=
  (scaled (Double.ofInt significand) exponent 10).map fun d =>
    .double (if negative then d.neg else d)

/-- The number of a literal; none if its magnitude exceeds every double. -/
def Literal.number? (l : Literal) : Option Number :=
  let (head, dropped) := leadingWord l.whole 0
  let fits := dropped.isEmpty
  match l.fraction, l.exponent with
  | [], none =>
    if fits && !l.negative then some (.integer head)
    else if fits && head ≠ 0 && head ≤ powerOfTwo 63 then some (.integer (-head))
    else signedDouble l.negative head dropped.length
  | fraction, exponent =>
    let (significand, unread) := leadingWord fraction head
    let shift : Int := (dropped.length : Int) - (fraction.length - unread.length : Nat)
    match exponent with
    | none => signedDouble l.negative significand shift
    | some (negativeExponent, digits) =>
      match exponentValue digits with
      | some e =>
        signedDouble l.negative significand (if negativeExponent then shift - e else shift + e)
      | none =>
        if significand ≠ 0 && !negativeExponent then none
        else signedDouble l.negative 0 0

/-- Numbers are written with a decimal point alone from the fifth decimal place up to sixteen
digits, always with a fraction or an exponent. -/
def layout : Layout :=
  ⟨.toEven, some (-5, 15), true, "null", "null"⟩

def Number.render : Number → String
  | .integer value => toString value
  | .double value => layout.write value

end GridBeans.Json
