import GridBeans.Decimal.Power

/-!
# Doubles

Binary floating point numbers with 53 significant bits, kept as exact values: a sign, a mantissa
and a power of two. All arithmetic is done on natural numbers and rounded once, to the nearest
double and on a tie to the even mantissa.
-/
namespace GridBeans.Decimal

/-- A double. A finite one is `mantissa * 2 ^ exponent` with its sign; in the form that rounding
gives, the mantissa has 53 bits, or fewer at the least exponent. -/
inductive Double where
  | finite (negative : Bool) (mantissa : Nat) (exponent : Int)
  | infinite (negative : Bool)
  | nan
  deriving DecidableEq, Repr

def leastExponent : Int := -1074

def greatestExponent : Int := 971

/-- The quotient rounded to the nearest integer, a tie to the even one. -/
def roundHalfEven (num den : Nat) : Nat :=
  let quotient := num / den
  let twice := 2 * (num % den)
  if twice < den then quotient
  else if den < twice then quotient + 1
  else quotient + quotient % 2

/-- The largest `e` with `2 ^ e ≤ num / den`, both being positive. -/
def floorLog2 (num den : Nat) : Int :=
  let e : Int := (num.log2 : Int) - den.log2
  let reached :=
    if 0 ≤ e then den * powerOfTwo e.toNat ≤ num else den ≤ num * powerOfTwo (-e).toNat
  if reached then e else e - 1

/-- The double nearest to a quotient of natural numbers. -/
def Double.ofRatio (negative : Bool) (num den : Nat) : Double :=
  if num = 0 then .finite negative 0 leastExponent
  else
    let exponent := max leastExponent (floorLog2 num den - 52)
    let mantissa :=
      if 0 ≤ exponent then roundHalfEven num (den * powerOfTwo exponent.toNat)
      else roundHalfEven (num * powerOfTwo (-exponent).toNat) den
    let carried := mantissa == powerOfTwo 53
    let mantissa := if carried then powerOfTwo 52 else mantissa
    let exponent := if carried then exponent + 1 else exponent
    if greatestExponent < exponent then .infinite negative
    else .finite negative mantissa exponent

def Double.ofInt (i : Int) : Double :=
  .ofRatio (decide (i < 0)) i.natAbs 1

/-- The double nearest to `digits * 10 ^ power`. -/
def Double.ofDecimal (negative : Bool) (digits : Nat) (power : Int) : Double :=
  if 0 ≤ power then .ofRatio negative (digits * powerOfTen power.toNat) 1
  else .ofRatio negative digits (powerOfTen (-power).toNat)

def Double.isFinite : Double → Bool
  | .finite .. => true
  | _ => false

def Double.isZero : Double → Bool
  | .finite _ 0 _ => true
  | _ => false

def Double.neg : Double → Double
  | .finite negative mantissa exponent => .finite (!negative) mantissa exponent
  | .infinite negative => .infinite (!negative)
  | .nan => .nan

/-- The magnitude of a finite double as a quotient of natural numbers. -/
def magnitude (mantissa : Nat) (exponent : Int) : Nat × Nat :=
  if 0 ≤ exponent then (mantissa * powerOfTwo exponent.toNat, 1)
  else (mantissa, powerOfTwo (-exponent).toNat)

/-- The product of finite doubles, rounded. -/
def Double.mul : Double → Double → Double
  | .finite n₁ m₁ e₁, .finite n₂ m₂ e₂ =>
    let (num, den) := magnitude (m₁ * m₂) (e₁ + e₂)
    .ofRatio (n₁ != n₂) num den
  | _, _ => .nan

/-- The quotient of finite doubles, the second not zero, rounded. -/
def Double.div : Double → Double → Double
  | .finite n₁ m₁ e₁, .finite n₂ m₂ e₂ =>
    let (num₁, den₁) := magnitude m₁ e₁
    let (num₂, den₂) := magnitude m₂ e₂
    if num₂ = 0 then .nan else .ofRatio (n₁ != n₂) (num₁ * den₂) (den₁ * num₂)
  | _, _ => .nan

end GridBeans.Decimal
