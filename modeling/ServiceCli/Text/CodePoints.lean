/-!
Sets of code points, given by the places where membership changes.
-/
namespace ServiceCli.Text

/-- A set of code points. Membership is `false` at first and changes at each of the ascending
`flips`. -/
structure CodePoints where
  flips : List Nat
deriving Repr, DecidableEq

namespace CodePoints

/-- Membership after an even number of changes, for the changes still to come. -/
def holdsFrom (n : Nat) : List Nat → Bool
  | [] => false
  | f :: fs => if n < f then false else !holdsFrom n fs

def holds (s : CodePoints) (c : Char) : Bool := holdsFrom c.toNat s.flips

end CodePoints

end ServiceCli.Text
