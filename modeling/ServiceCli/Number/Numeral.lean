import ServiceCli.Number.Width

/-!
Decimal numerals as people write them: integers with an optional sign, and numbers with a point and
an exponent.
-/
namespace ServiceCli.Number

def isDigit (c : Char) : Bool := '0' ≤ c && c ≤ '9'

def digitValue (c : Char) : Nat := c.toNat - '0'.toNat

/-- The number written by one or more decimal digits. -/
def natural? (cs : List Char) : Option Nat :=
  if cs ≠ [] ∧ cs.all isDigit then some (cs.foldl (fun n c => 10 * n + digitValue c) 0) else none

/-- A natural number, possibly after a plus sign. -/
def unsigned? : List Char → Option Nat
  | '+' :: cs => natural? cs
  | cs => natural? cs

/-- An integer, possibly after a sign. -/
def integer? : List Char → Option Int
  | '-' :: cs => (natural? cs).map fun n => -(n : Int)
  | cs => (unsigned? cs).map fun n => (n : Int)

/-- An integer of a signed type of some width. -/
def signed? (bits : Nat) (cs : List Char) : Option Int := (integer? cs).filter (isSigned bits)

/-- A natural number of an unsigned type of some width. -/
def bounded? (bits : Nat) (cs : List Char) : Option Nat :=
  (unsigned? cs).filter fun n => isUnsigned bits n

def dropSign : List Char → List Char
  | '+' :: cs => cs
  | '-' :: cs => cs
  | cs => cs

/-- The exponent that the part of a number from its mark on gives: zero if nothing is left, and
otherwise the integer after the mark. -/
def exponent? : List Char → Option Int
  | [] => some 0
  | c :: cs => if c == 'e' || c == 'E' then integer? cs else none

/-- A number as `digits * 10 ^ exponent`. -/
structure Decimal where
  digits : Nat
  exponent : Int
deriving Repr, DecidableEq

/-- Digits with at most one point among them and an optional exponent. At least one digit stands
before the exponent. -/
def decimal? (cs : List Char) : Option Decimal :=
  let whole := cs.takeWhile isDigit
  let rest := cs.dropWhile isDigit
  let fraction := if rest.head? = some '.' then rest.tail.takeWhile isDigit else []
  let rest := if rest.head? = some '.' then rest.tail.dropWhile isDigit else rest
  (natural? (whole ++ fraction)).bind fun digits =>
    (exponent? rest).map fun e => ⟨digits, e - fraction.length⟩

/-- The number of double precision that is nearest to a decimal. Decimals far outside the range of
these numbers are zero or infinite, whatever their digits. -/
def Decimal.toFloat (d : Decimal) : Float :=
  let size := d.exponent + (Nat.toDigits 10 d.digits).length
  if d.digits = 0 ∨ size < -400 then 0.0
  else if 400 < size then 1.0 / 0.0
  else Float.ofScientific d.digits (decide (d.exponent < 0)) d.exponent.natAbs

/-- A real number, an infinity or a value that is no number, after an optional sign. -/
def real? (cs : List Char) : Option Float :=
  let unsigned := dropSign cs
  let lower := String.ofList (unsigned.map Char.toLower)
  let value :=
    if lower == "inf" || lower == "infinity" then some (1.0 / 0.0)
    else if lower == "nan" then some (0.0 / 0.0)
    else (decimal? unsigned).map (·.toFloat)
  if cs.head? = some '-' then value.map fun x => -x else value

end ServiceCli.Number
