import ServiceCli.Number.Shortest
import ServiceCli.Scalar
import ServiceCli.Wire.Writing

/-!
Values that are not made of other values: what fields of primitive types and of enumerations hold.
-/
namespace ServiceCli.Descriptor

open Wire (Bytes Payload)

/-- A value of a primitive type or of an enumeration. Floating-point numbers are kept as their
bits. -/
inductive Atom where
  | bool (b : Bool)
  | int32 (i : Int)
  | int64 (i : Int)
  | uint32 (n : Nat)
  | uint64 (n : Nat)
  | float (bits : Nat)
  | double (bits : Nat)
  | choice (number : Int)
  | text (s : String)
  | bytes (b : Bytes)
deriving Repr, DecidableEq

namespace Atom

/-- The value of a field of a primitive type that nothing was written to. -/
def zero : Scalar → Atom
  | .bool => bool false
  | .int32 | .sint32 | .sfixed32 => int32 0
  | .int64 | .sint64 | .sfixed64 => int64 0
  | .uint32 | .fixed32 => uint32 0
  | .uint64 | .fixed64 => uint64 0
  | .float => float 0
  | .double => double 0
  | .string => text ""
  | .bytes => bytes []

/-- Whether two values are equal, floating-point numbers as numbers. -/
def same : Atom → Atom → Bool
  | float a, float b => Number.single.sameNumber a b
  | double a, double b => Number.double.sameNumber a b
  | a, b => a == b

/-- How a value is named where a text was expected. -/
def describe : Atom → String
  | bool b => s!"bool {b}"
  | int32 i => s!"int32 {i}"
  | int64 i => s!"int64 {i}"
  | uint32 n => s!"uint32 {n}"
  | uint64 n => s!"uint64 {n}"
  | float bits => s!"float {Number.numeral Number.single bits}"
  | double bits => s!"double {Number.numeral Number.double bits}"
  | choice number => s!"enum value {number}"
  | text s => s
  | bytes _ => "bytes"

/-- The number that a zigzag code stands for: even codes count up from zero, odd ones down. -/
def zigzag (n : Nat) : Int := if n % 2 = 0 then (n / 2 : Nat) else -(n / 2 : Nat) - 1

/-- The zigzag code of a number. -/
def zigzagCode (i : Int) : Nat := if 0 ≤ i then 2 * i.toNat else 2 * (-i).toNat - 1

/-- The value of a primitive type in a payload. -/
def ofPayload (s : Scalar) (p : Payload) : Except Wire.Fault Atom := do
  match s with
  | .bool => return bool (← p.bool)
  | .int32 => return int32 (← p.int32)
  | .sint32 => return int32 (zigzag (Number.wrapUnsigned 32 (← p.natural)))
  | .sfixed32 => return int32 (Number.wrapSigned 32 (← p.fixed32Bits))
  | .int64 => return int64 (← p.int64)
  | .sint64 => return int64 (zigzag (← p.natural))
  | .sfixed64 => return int64 (Number.wrapSigned 64 (← p.fixed64Bits))
  | .uint32 => return uint32 (Number.wrapUnsigned 32 (← p.natural))
  | .fixed32 => return uint32 (← p.fixed32Bits)
  | .uint64 => return uint64 (← p.natural)
  | .fixed64 => return uint64 (← p.fixed64Bits)
  | .float => return float (← p.fixed32Bits)
  | .double => return double (← p.fixed64Bits)
  | .string => return text (← p.text)
  | .bytes => return bytes (← p.bytes)

/-- The wire type of each value of a primitive type. -/
def wireType : Scalar → Wire.WireType
  | .double | .fixed64 | .sfixed64 => .fixed64
  | .float | .fixed32 | .sfixed32 => .fixed32
  | .string | .bytes => .delimited
  | _ => .varint

/-- The bits of a number, as many as there are. -/
def bits (width : Nat) (i : Int) : Nat := (i % Number.rangeSize width).toNat

/-- A number as the payload that a primitive type has for it. -/
def numberPayload (s : Scalar) (i : Int) : Payload :=
  match s with
  | .sint32 | .sint64 => .varint (zigzagCode i)
  | .fixed32 | .sfixed32 => .fixed32 (bits 32 i)
  | .fixed64 | .sfixed64 => .fixed64 (bits 64 i)
  | _ => .varint (bits 64 i)

/-- The payload of a value of a primitive type. -/
def payload (s : Scalar) : Atom → Payload
  | bool b => .varint b.toNat
  | int32 i | int64 i => numberPayload s i
  | uint32 n | uint64 n => numberPayload s n
  | float bits => .fixed32 bits
  | double bits => .fixed64 bits
  | choice number => .varint (bits 64 number)
  | text s => .delimited (Wire.textBytes s)
  | bytes b => .delimited b

end Atom

end ServiceCli.Descriptor
