import ServiceCli.Number.Width

/-!
The shortest decimal numeral of a binary floating-point number: of all decimals that are read as
this number, one with the fewest digits, and of those the nearest. It is written without an
exponent.
-/
namespace ServiceCli.Number

/-- A binary format: how many bits hold the fraction and how many the exponent. -/
structure BinaryFormat where
  fractionBits : Nat
  exponentBits : Nat
deriving Repr, DecidableEq

def single : BinaryFormat := ⟨23, 8⟩

def double : BinaryFormat := ⟨52, 11⟩

/-- What a pattern of bits stands for. A finite value is `significand * 2 ^ exponent`. -/
inductive Binary where
  | notANumber
  | infinite (negative : Bool)
  | finite (negative : Bool) (significand : Nat) (exponent : Int) (lowest : Bool)
deriving Repr, DecidableEq

namespace BinaryFormat

/-- The exponent of the numbers nearest to zero. -/
def minExponent (f : BinaryFormat) : Int :=
  2 - (rangeSize (f.exponentBits - 1) : Int) - f.fractionBits

/-- `lowest` holds for the smallest significand of an exponent that has a predecessor: below it the
numbers lie twice as dense. -/
def decode (f : BinaryFormat) (bits : Nat) : Binary :=
  let fraction := bits % rangeSize f.fractionBits
  let biased := bits / rangeSize f.fractionBits % rangeSize f.exponentBits
  let negative := bits / rangeSize (f.fractionBits + f.exponentBits) % 2 = 1
  if biased = rangeSize f.exponentBits - 1 then
    if fraction = 0 then .infinite negative else .notANumber
  else if biased = 0 then .finite negative fraction f.minExponent false
  else
    .finite negative (rangeSize f.fractionBits + fraction) (f.minExponent + (biased - 1))
      (fraction = 0 && 1 < biased)

/-- Whether two patterns of bits stand for one number. Zero has two patterns, and what is no number
equals nothing. -/
def sameNumber (f : BinaryFormat) (a b : Nat) : Bool :=
  match f.decode a, f.decode b with
  | .notANumber, _ => false
  | .finite _ 0 _ _, .finite _ 0 _ _ => true
  | x, y => x == y

end BinaryFormat

/-- The numbers between `low` and `high`, all over `den`, that are read as `value / den`. -/
structure Interval where
  low : Nat
  value : Nat
  high : Nat
  den : Nat
  closed : Bool
deriving Repr, DecidableEq

/-- The interval halfway to both neighbours; its ends belong to it if the significand is even. -/
def Interval.around (significand : Nat) (exponent : Int) (lowest : Bool) : Interval :=
  let scale := Nat.pow 2 (exponent - 2).toNat
  ⟨(4 * significand - (if lowest then 1 else 2)) * scale, 4 * significand * scale,
    (4 * significand + 2) * scale, Nat.pow 2 (2 - exponent).toNat, significand % 2 = 0⟩

def Interval.contains (i : Interval) (num den : Nat) : Bool :=
  let n := num * i.den
  if i.closed then i.low * den ≤ n && n ≤ i.high * den else i.low * den < n && n < i.high * den

/-- The multiple of `10 ^ k` in the interval that is nearest to its value, if there is one: the
factor in front of `10 ^ k`. Of two at the same distance the greater one is taken. -/
def Interval.onGrid (i : Interval) (k : Int) : Option Nat :=
  let up := Nat.pow 10 k.toNat
  let down := Nat.pow 10 (-k).toNat
  let below := i.value * down / (i.den * up)
  let above := below + 1
  let hitsBelow := i.contains (below * up) down
  let hitsAbove := i.contains (above * up) down
  if hitsBelow && hitsAbove then
    let toBelow := i.value * down - below * up * i.den
    let toAbove := above * up * i.den - i.value * down
    some (if toBelow < toAbove then below else above)
  else if hitsBelow && below ≠ 0 then some below
  else if hitsAbove then some above
  else none

/-- The digits and the exponent of the shortest decimal. The grids are tried from coarse to fine;
one finer than the last place of any number of the format always has a hit. -/
def Interval.shortest (i : Interval) : Nat × Int :=
  let top : Int := (Nat.toDigits 10 (i.high / i.den)).length
  let bottom : Nat := top.toNat + (Nat.toDigits 10 i.den).length + 20
  ((List.range bottom).findSome? fun step =>
    let k : Int := top - (step : Nat)
    (i.onGrid k).map fun d => (d, k)).getD (0, 0)

/-- `digits * 10 ^ exponent` without an exponent mark, and without a point if it is whole. -/
def positional (digits : Nat) (exponent : Int) : String :=
  let ds := Nat.toDigits 10 digits
  if 0 ≤ exponent then String.ofList (ds ++ List.replicate exponent.toNat '0')
  else
    let places := (-exponent).toNat
    let ds := List.replicate (places + 1 - ds.length) '0' ++ ds
    String.ofList (ds.take (ds.length - places) ++ '.' :: ds.drop (ds.length - places))

/-- The numeral of a number given by its bits. -/
def numeral (f : BinaryFormat) (bits : Nat) : String :=
  match f.decode bits with
  | .notANumber => "NaN"
  | .infinite negative => if negative then "-inf" else "inf"
  | .finite negative significand exponent lowest =>
    let text := if significand = 0 then "0"
      else
        let (d, k) := (Interval.around significand exponent lowest).shortest
        positional d k
    if negative then "-" ++ text else text

end ServiceCli.Number
