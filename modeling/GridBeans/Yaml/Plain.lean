import GridBeans.Decimal.Double
import GridBeans.Text.Digits

/-!
# Meaning of plain scalars

The plain scalars that are null, truth values, integers and doubles. Integers are decimal without
leading zeros, or hexadecimal, octal or binary with a mark; doubles have an optional fraction and
exponent, or are one of the spellings of infinity and of no number.
-/
namespace GridBeans.Yaml

open GridBeans.Decimal (Double isWord)

/-- The spellings of null, the empty one apart. -/
def isNullWord (s : String) : Bool :=
  s = "null" || s = "Null" || s = "NULL" || s = "~"

def boolWord? (s : String) : Option Bool :=
  if s = "true" || s = "True" || s = "TRUE" then some true
  else if s = "false" || s = "False" || s = "FALSE" then some false
  else none

/-- The digits behind a mark such as `0x`, with their base. -/
def marked? : List Char → Option (Nat × List Char)
  | '0' :: 'x' :: rest => some (16, rest)
  | '0' :: 'o' :: rest => some (8, rest)
  | '0' :: 'b' :: rest => some (2, rest)
  | _ => none

/-- A number with digits behind a leading zero. -/
def hasLeadingZero : List Char → Bool
  | '0' :: c :: rest => (c :: rest).all Char.isDigit
  | _ => false

/-- The sign of a number, true for a minus, and what follows it. -/
def splitSign : List Char → Bool × List Char
  | '-' :: rest => (true, rest)
  | '+' :: rest => (false, rest)
  | rest => (false, rest)

/-- The magnitude of an integer. -/
def naturalWord? (cs : List Char) : Option Nat :=
  match marked? cs with
  | some (base, digits) => Text.number? base digits
  | none => if hasLeadingZero cs then none else Text.number? 10 cs

/-- The integer of a signed word that a text stands for. -/
def integerWord? (s : String) : Option Int := do
  let (negative, cs) := splitSign s.toList
  let n ← naturalWord? cs
  let i : Int := if negative then -n else n
  if isWord i then some i else none

/-- The digits of a decimal number and its power of ten. -/
def decimal? (cs : List Char) : Option (List Char × Int) :=
  let whole := cs.takeWhile Char.isDigit
  let (fraction, rest) := match cs.drop whole.length with
    | '.' :: rest => (rest.takeWhile Char.isDigit, rest.dropWhile Char.isDigit)
    | rest => ([], rest)
  let digits := whole ++ fraction
  if digits.isEmpty then none
  else
    match rest with
    | [] => some (digits, -fraction.length)
    | c :: rest =>
      if c = 'e' || c = 'E' then do
        let (negative, exponent) := splitSign rest
        let e ← Text.number? 10 exponent
        let e : Int := if negative then -e else e
        if exponent.all Char.isDigit then some (digits, e - fraction.length) else none
      else none

/-- The double nearest to digits with a power of ten; none if it is infinite. -/
def finiteDouble? (negative : Bool) (digits : List Char) (power : Int) : Option Double :=
  let significant := digits.dropWhile (· = '0')
  let point := power + significant.length
  if significant.isEmpty || point < -400 then some (Double.ofRatio negative 0 1)
  else if 400 < point then none
  else do
    let n ← Text.number? 10 significant
    let d := Double.ofDecimal negative n power
    if d.isFinite then some d else none

def doubleWord? (s : String) : Option Double :=
  if s = ".nan" || s = ".NaN" || s = ".NAN" then some .nan
  else
    let (negative, cs) := splitSign s.toList
    let word := String.ofList cs
    if word = ".inf" || word = ".Inf" || word = ".INF" then some (.infinite negative)
    else do
      let (digits, power) ← decimal? cs
      finiteDouble? negative digits power

end GridBeans.Yaml
