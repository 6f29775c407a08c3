import ServiceCli.Number.Width
import ServiceCli.Wire.Varint
import ServiceCli.Wire.Fault

/-!
The fields of a message: a key with number and wire type, then a payload of the form that the wire
type names.
-/
namespace ServiceCli.Wire

/-- How deeply messages and groups may be nested. -/
def depthLimit : Nat := 100

structure Key where
  number : Nat
  wireType : WireType
deriving Repr, DecidableEq

/-- The content of a field. A group is kept as the bytes between its two keys. -/
inductive Payload where
  | varint (n : Nat)
  | fixed64 (n : Nat)
  | delimited (bytes : Bytes)
  | group (bytes : Bytes)
  | fixed32 (n : Nat)
deriving Repr, DecidableEq

structure Field where
  number : Nat
  payload : Payload
deriving Repr, DecidableEq

def Payload.wireType : Payload → WireType
  | .varint _ => .varint
  | .fixed64 _ => .fixed64
  | .delimited _ => .delimited
  | .group _ => .groupStart
  | .fixed32 _ => .fixed32

def readNumber (bytes : Bytes) : Except Fault (Nat × Bytes) :=
  match readVarint bytes with
  | none => .error .badVarint
  | some r => .ok r

def readKey (bytes : Bytes) : Except Fault (Key × Bytes) := do
  let (key, rest) ← readNumber bytes
  if Number.rangeSize 32 ≤ key then throw (.badKey key)
  match WireType.ofCode? (key % 8) with
  | none => throw (.badWireType (key % 8))
  | some wireType =>
    if key / 8 = 0 then throw .zeroNumber
    return (⟨key / 8, wireType⟩, rest)

/-- The first `n` bytes and the others. -/
def readBytes (n : Nat) (bytes : Bytes) : Except Fault (Bytes × Bytes) :=
  if bytes.length < n then .error .underflow else .ok (bytes.take n, bytes.drop n)

/-- A length, then that many bytes. -/
def readDelimited (bytes : Bytes) : Except Fault (Bytes × Bytes) := do
  let (n, rest) ← readNumber bytes
  readBytes n rest

/-- The number whose bytes are given, the lowest first. -/
def littleEndian : Bytes → Nat
  | [] => 0
  | b :: bs => b.toNat + 256 * littleEndian bs

def readFixed (size : Nat) (bytes : Bytes) : Except Fault (Nat × Bytes) := do
  let (b, rest) ← readBytes size bytes
  return (littleEndian b, rest)

/-- Skips a payload other than a group. -/
def skipPlain (wireType : WireType) (bytes : Bytes) : Except Fault Bytes := do
  match wireType with
  | .varint => return (← readNumber bytes).2
  | .fixed64 => return (← readBytes 8 bytes).2
  | .delimited => return (← readDelimited bytes).2
  | .fixed32 => return (← readBytes 4 bytes).2
  | .groupStart | .groupEnd => throw .strayGroupEnd

/-- Finds the end of the groups with the given numbers, the innermost first. The answer is the bytes
from the key that ends the outermost group, and the bytes after that key. `depth` is how many levels
may still be opened. Every step reads a key, so `fuel` need not exceed the number of bytes. -/
def scanGroups : (fuel depth : Nat) → (opened : List Nat) → Bytes → Except Fault (Bytes × Bytes)
  | 0, _, _, _ => .error .badVarint
  | fuel + 1, depth, opened, bytes => do
    let (key, rest) ← readKey bytes
    if key.wireType = .groupEnd then
      match opened with
      | [] => throw .strayGroupEnd
      | [number] => if key.number = number then return (bytes, rest) else throw .strayGroupEnd
      | number :: outer =>
        if key.number = number then scanGroups fuel (depth + 1) outer rest
        else throw .strayGroupEnd
    else
      match depth with
      | 0 => throw .tooDeep
      | below + 1 =>
        if key.wireType = .groupStart then
          scanGroups fuel below (key.number :: opened) rest
        else
          let rest ← skipPlain key.wireType rest
          scanGroups fuel depth opened rest

/-- The payload of a field whose key has been read. -/
def readPayload (depth : Nat) (key : Key) (bytes : Bytes) : Except Fault (Payload × Bytes) := do
  match key.wireType with
  | .varint => let (n, rest) ← readNumber bytes; return (.varint n, rest)
  | .fixed64 => let (n, rest) ← readFixed 8 bytes; return (.fixed64 n, rest)
  | .delimited => let (b, rest) ← readDelimited bytes; return (.delimited b, rest)
  | .fixed32 => let (n, rest) ← readFixed 4 bytes; return (.fixed32 n, rest)
  | .groupStart =>
    match depth with
    | 0 => throw .tooDeep
    | below + 1 =>
      let (atEnd, rest) ← scanGroups (bytes.length + 1) below [key.number] bytes
      return (.group (bytes.take (bytes.length - atEnd.length)), rest)
  | .groupEnd => throw .strayGroupEnd

/-- The fields of at most `fuel` bytes. -/
def fieldsWithin (depth : Nat) : (fuel : Nat) → Bytes → Except Fault (List Field)
  | _, [] => .ok []
  | 0, _ :: _ => .error .underflow
  | fuel + 1, b :: bs => do
    let (key, rest) ← readKey (b :: bs)
    let (payload, rest) ← readPayload depth key rest
    let others ← fieldsWithin depth fuel rest
    return ⟨key.number, payload⟩ :: others

/-- All fields of a message, in order. -/
def fields (depth : Nat) (bytes : Bytes) : Except Fault (List Field) :=
  fieldsWithin depth bytes.length bytes

/-- A field without a meaning for its message is passed over, which needs a level of nesting. -/
def passOver (depth : Nat) : Except Fault Unit :=
  if depth = 0 then .error .tooDeep else .ok ()

/-- The text with these bytes, if they are UTF-8. -/
def text? (bytes : Bytes) : Option String := String.fromUTF8? ⟨bytes.toArray⟩

namespace Payload

def bytes : Payload → Except Fault Bytes
  | .delimited b => .ok b
  | p => .error (.wrongWireType p.wireType .delimited)

def text (p : Payload) : Except Fault String := do
  match text? (← p.bytes) with
  | none => throw .notText
  | some s => return s

/-- An unsigned number of 64 bits. -/
def natural : Payload → Except Fault Nat
  | .varint n => .ok n
  | p => .error (.wrongWireType p.wireType .varint)

def bool (p : Payload) : Except Fault Bool := return (← p.natural) != 0

/-- A signed number of 32 bits; higher bits are dropped. -/
def int32 (p : Payload) : Except Fault Int := return Number.wrapSigned 32 (← p.natural)

def int64 (p : Payload) : Except Fault Int := return Number.wrapSigned 64 (← p.natural)

def fixed64Bits : Payload → Except Fault Nat
  | .fixed64 n => .ok n
  | p => .error (.wrongWireType p.wireType .fixed64)

def fixed32Bits : Payload → Except Fault Nat
  | .fixed32 n => .ok n
  | p => .error (.wrongWireType p.wireType .fixed32)

end Payload

/-- Numbers written one after the other without keys, in at most `fuel` bytes. -/
def packedWithin : (fuel : Nat) → Bytes → Except Fault (List Nat)
  | _, [] => .ok []
  | 0, _ :: _ => .error .underflow
  | fuel + 1, b :: bs => do
    let (n, rest) ← readNumber (b :: bs)
    return n :: (← packedWithin fuel rest)

/-- One occurrence of a repeated field of 32-bit numbers, which may hold several at once. -/
def Payload.int32s : Payload → Except Fault (List Int)
  | .delimited b => do
    let ns ← packedWithin b.length b
    return ns.map fun (n : Nat) => Number.wrapSigned 32 n
  | p => return [← p.int32]

end ServiceCli.Wire
