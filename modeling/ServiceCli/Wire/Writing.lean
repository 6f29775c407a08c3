import ServiceCli.Wire.Field

/-!
Messages in the wire format, as they are written: each field is a key and its payload, and a message
is its fields one after the other.
-/
namespace ServiceCli.Wire

def textBytes (s : String) : Bytes := s.toUTF8.data.toList

def writeKey (number : Nat) (wireType : WireType) : Bytes := varint (number * 8 + wireType.code)

def writeBytes (number : Nat) (bytes : Bytes) : Bytes :=
  writeKey number .delimited ++ varint bytes.length ++ bytes

def writeText (number : Nat) (s : String) : Bytes := writeBytes number (textBytes s)

def writeNatural (number n : Nat) : Bytes := writeKey number .varint ++ varint n

/-- A signed number is written as the 64-bit number with the same bits. -/
def writeInt (number : Nat) (i : Int) : Bytes := writeNatural number (i % Number.rangeSize 64).toNat

def writeBool (number : Nat) (b : Bool) : Bytes := writeNatural number b.toNat

/-- A number in exactly `size` bytes, the lowest first. -/
def fixedBytes : (size : Nat) → Nat → Bytes
  | 0, _ => []
  | size + 1, n => (n % 256).toUInt8 :: fixedBytes size (n / 256)

/-- An absent value is not written. -/
def writeOptional {α : Type} (write : Nat → α → Bytes) (number : Nat) : Option α → Bytes
  | none => []
  | some a => write number a

/-- A repeated field has one occurrence per value. -/
def writeAll {α : Type} (write : Nat → α → Bytes) (number : Nat) (as : List α) : Bytes :=
  as.flatMap (write number)

end ServiceCli.Wire
