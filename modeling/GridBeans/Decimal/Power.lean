/-!
# Powers and words

Powers of two and of ten, and the integers that fit a signed word of 64 bits.
-/
namespace GridBeans.Decimal

def powerOfTwo (exponent : Nat) : Nat := Nat.pow 2 exponent

def powerOfTen (exponent : Nat) : Nat := Nat.pow 10 exponent

/-- The integers of a signed word. -/
def isWord (i : Int) : Bool :=
  -(powerOfTwo 63 : Int) ≤ i && i < powerOfTwo 63

end GridBeans.Decimal
