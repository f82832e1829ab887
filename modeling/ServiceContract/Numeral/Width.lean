/-!
# Widths of integers
-/

namespace ServiceContract.Numeral

/-- The power of two that integers of a number of bits stay below. -/
def bitLimit (bits : Nat) : Nat := Nat.pow 2 bits

/-- Whether an integer has a number of bits, of which one is for its sign. -/
def isSigned (bits : Nat) (n : Int) : Bool :=
  decide (-(bitLimit (bits - 1) : Int) ≤ n) && decide (n < (bitLimit (bits - 1) : Int))

/-- Whether an integer has a number of bits and no sign. -/
def isUnsigned (bits : Nat) (n : Int) : Bool := decide (0 ≤ n) && decide (n < (bitLimit bits : Int))

end ServiceContract.Numeral
