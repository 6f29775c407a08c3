/-!
What can be wrong with a message in the protobuf wire format.
-/
namespace ServiceCli.Wire

inductive WireType where
  | varint
  | fixed64
  | delimited
  | groupStart
  | groupEnd
  | fixed32
deriving Repr, DecidableEq

namespace WireType

def ofCode? : Nat → Option WireType
  | 0 => some varint
  | 1 => some fixed64
  | 2 => some delimited
  | 3 => some groupStart
  | 4 => some groupEnd
  | 5 => some fixed32
  | _ => none

def code : WireType → Nat
  | varint => 0
  | fixed64 => 1
  | delimited => 2
  | groupStart => 3
  | groupEnd => 4
  | fixed32 => 5

theorem ofCode?_code (w : WireType) : ofCode? w.code = some w := by cases w <;> rfl

def name : WireType → String
  | varint => "Varint"
  | fixed64 => "SixtyFourBit"
  | delimited => "LengthDelimited"
  | groupStart => "StartGroup"
  | groupEnd => "EndGroup"
  | fixed32 => "ThirtyTwoBit"

end WireType

inductive Fault where
  /-- A number has no end, or more than 64 bits. -/
  | badVarint
  /-- The bytes end before the value does. -/
  | underflow
  /-- The key of a field has more than 32 bits. -/
  | badKey (key : Nat)
  | badWireType (code : Nat)
  | zeroNumber
  /-- A known field is written in a way that its type does not have. -/
  | wrongWireType (found expected : WireType)
  /-- A group ends that was not open. -/
  | strayGroupEnd
  | notText
  /-- Messages or groups are nested too deeply. -/
  | tooDeep
deriving Repr, DecidableEq

def Fault.message : Fault → String
  | badVarint => "invalid varint"
  | underflow => "buffer underflow"
  | badKey key => s!"invalid key value: {key}"
  | badWireType code => s!"invalid wire type value: {code}"
  | zeroNumber => "invalid tag value: 0"
  | wrongWireType found expected =>
    s!"invalid wire type: {found.name} (expected {expected.name})"
  | strayGroupEnd => "unexpected end group tag"
  | notText => "invalid string value: data is not UTF-8 encoded"
  | tooDeep => "recursion limit reached"

end ServiceCli.Wire
