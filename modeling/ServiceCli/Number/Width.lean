/-!
Integers of a fixed width in bits: how many there are, which values fit, and what is left of a value
that does not.
-/
namespace ServiceCli.Number

/-- How many integers of a width there are. -/
def rangeSize (bits : Nat) : Nat := Nat.pow 2 bits

def isUnsigned (bits : Nat) (i : Int) : Bool := 0 ≤ i && i < rangeSize bits

def isSigned (bits : Nat) (i : Int) : Bool :=
  -(rangeSize (bits - 1) : Int) ≤ i && i < rangeSize (bits - 1)

/-- The lowest bits of a natural number. -/
def wrapUnsigned (bits n : Nat) : Nat := n % rangeSize bits

/-- The lowest bits of an integer, of which the highest one counts as negative. -/
def wrapSigned (bits : Nat) (i : Int) : Int := Int.bmod i (rangeSize bits)

end ServiceCli.Number
