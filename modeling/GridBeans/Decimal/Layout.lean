import GridBeans.Decimal.Shortest

/-!
# Decimal layout

How the shortest digits of a double become text: which exponents are written with a decimal point
alone and which with an exponent, and whether a whole number keeps a fraction.
-/
namespace GridBeans.Decimal

/-- The choices of one number format. -/
structure Layout where
  tie : Tie
  /-- The exponents of the first digit that are written without an exponent; none for all. -/
  positional : Option (Int × Int)
  /-- A whole number written without an exponent ends in a zero fraction. -/
  keepFraction : Bool
  nanText : String
  infinityText : String
  deriving DecidableEq, Repr

/-- Digits around a decimal point that stands after the given number of them. -/
def positionalText (digits : List Char) (point : Int) (keepFraction : Bool) : String :=
  if point ≤ 0 then
    "0." ++ String.ofList (List.replicate (-point).toNat '0' ++ digits)
  else
    let whole := digits.take point.toNat
    let padding := List.replicate (point.toNat - digits.length) '0'
    let fraction := digits.drop point.toNat
    String.ofList (whole ++ padding) ++
      (if fraction.isEmpty then (if keepFraction then ".0" else "")
      else "." ++ String.ofList fraction)

/-- Digits with a point after the first one and an exponent that always has a sign. -/
def exponentText (digits : List Char) (exponent : Int) : String :=
  let fraction := digits.drop 1
  String.ofList (digits.take 1) ++
    (if fraction.isEmpty then "" else "." ++ String.ofList fraction) ++
    "e" ++ (if exponent < 0 then "-" else "+") ++ toString exponent.natAbs

def Layout.write (layout : Layout) : Double → String
  | .nan => layout.nanText
  | .infinite negative => (if negative then "-" else "") ++ layout.infinityText
  | .finite negative mantissa exponent =>
    let sign := if negative then "-" else ""
    if mantissa = 0 then sign ++ positionalText ['0'] 1 layout.keepFraction
    else
      let (digits, power) := shortest layout.tie mantissa exponent
      let chars := Nat.toDigits 10 digits
      let point := power + chars.length
      let plain := match layout.positional with
        | none => true
        | some (least, greatest) => decide (least ≤ point - 1 ∧ point - 1 ≤ greatest)
      sign ++
        (if plain then positionalText chars point layout.keepFraction
        else exponentText chars (point - 1))

/-- Every number in full, a whole number without a fraction. -/
def plainLayout : Layout :=
  ⟨.up, none, false, "NaN", "inf"⟩

end GridBeans.Decimal
