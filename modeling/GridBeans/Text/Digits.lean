/-!
# Digits

Numbers written with the digits of a base up to sixteen, where letters of either case go on after
nine.
-/
namespace GridBeans.Text

def digit? (base : Nat) (c : Char) : Option Nat :=
  let value? :=
    if '0' ≤ c && c ≤ '9' then some (c.toNat - 48)
    else if 'a' ≤ c && c ≤ 'f' then some (c.toNat - 87)
    else if 'A' ≤ c && c ≤ 'F' then some (c.toNat - 55)
    else none
  value?.filter (· < base)

/-- The number that at least one digit stands for, if all of them are digits of the base. -/
def number? (base : Nat) (digits : List Char) : Option Nat :=
  if digits.isEmpty then none
  else digits.foldl (fun acc c => do pure (base * (← acc) + (← digit? base c))) (some 0)

end GridBeans.Text
