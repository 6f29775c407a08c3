import ServiceCli.Descriptor.OptionValue

/-!
Messages from the wire format when their types are known only from files. Values of a repeated field
add up, messages are merged, and any other value takes the place of the one before it.
-/
namespace ServiceCli.Descriptor

open Wire (Bytes Payload)

/-- What is known about a message while it is read. Of the entry of a map only the key and the value
count. -/
inductive Shape where
  | unknown
  | message (m : MessageEntry)
  | mapEntry (m : MessageEntry)

namespace Shape

/-- The shape of a message with a full name. -/
def named (t : TypeTable) (fullName : String) : Shape :=
  match t.message? fullName with
  | none => unknown
  | some m => message m

def field? (t : TypeTable) : Shape → Int → Option FieldEntry
  | unknown, _ => none
  | message m, number => t.fieldNumbered? m number
  | mapEntry m, number =>
    if number = 1 ∨ number = 2 then m.fields.find? (·.number == number) else none

/-- Whether a number belongs to the same oneof as a field. -/
def isRival : Shape → FieldEntry → Int → Bool
  | message m => m.isRival
  | unknown | mapEntry _ => fun _ _ => false

end Shape

/-- Payloads of one wire type that stand one after the other, in at most `fuel` bytes. -/
def packedPayloads (wireType : Wire.WireType) :
    (fuel : Nat) → Bytes → Except Wire.Fault (List Payload)
  | _, [] => .ok []
  | 0, _ :: _ => .error .underflow
  | fuel + 1, b :: bs => do
    let (p, rest) ← Wire.readPayload 0 ⟨0, wireType⟩ (b :: bs)
    return p :: (← packedPayloads wireType fuel rest)

/-- One occurrence of a repeated field of primitive values; numbers may be packed. -/
def readRepeated (read : Payload → Except Wire.Fault Atom) (wireType : Wire.WireType)
    (p : Payload) : Except Wire.Fault (List Atom) := do
  match p with
  | .delimited b =>
    if wireType = .delimited then return [← read p]
    (← packedPayloads wireType b.length b).mapM read
  | p => return [← read p]

def readChoice (p : Payload) : Except Wire.Fault Atom := return .choice (← p.int32)

/-- A reader of messages: the number of the group that ends the message unless the bytes do, what is
known about it, the entries that it adds to, and the bytes. -/
abbrev MessageReader :=
  (group : Option Nat) → Shape → OptionEntries → Bytes → Except Wire.Fault (OptionEntries × Bytes)

def requireWireType (key : Wire.Key) (wireType : Wire.WireType) : Except Wire.Fault Unit :=
  if key.wireType = wireType then .ok () else .error (.wrongWireType key.wireType wireType)

/-- The value of a field after one more occurrence of it; `before` is the value until then. `enter`
reads what is nested one level deeper. An entry of a map is a length and as many bytes, whatever the
key says about its wire type. -/
def readValue (t : TypeTable) (enter enterEntry : MessageReader) (f : FieldEntry)
    (before : Option OptionValue) (key : Wire.Key) (bytes : Bytes) :
    Except Wire.Fault (OptionValue × Bytes) := do
  let items := (before.map (·.items)).getD []
  let start := if f.label = .repeated then [] else (before.map (·.entries)).getD []
  let nested (name : String) (entries : OptionEntries) : OptionValue :=
    if f.label = .repeated then .list (items ++ [.message name entries]) else .message name entries
  let plain (read : Payload → Except Wire.Fault Atom) (wireType : Wire.WireType) :
      Except Wire.Fault (OptionValue × Bytes) := do
    let (p, rest) ← Wire.readPayload 0 key bytes
    if f.label = .repeated then
      return (.list (items ++ (← readRepeated read wireType p).map .atom), rest)
    return (.atom (← read p), rest)
  match t.mapEntry? f with
  | some entry =>
    let (body, rest) ← Wire.readDelimited bytes
    let (entries, _) ← enterEntry none (.mapEntry entry) [] body
    return (.map (items ++ [.message entry.fullName entries]), rest)
  | none =>
    match f.type with
    | .scalar s => plain (Atom.ofPayload s) (Atom.wireType s)
    | .enumeration _ => plain readChoice .varint
    | .message name =>
      requireWireType key .delimited
      let (body, rest) ← Wire.readDelimited bytes
      let (entries, _) ← enter none (.named t name) start body
      return (nested name entries, rest)
    | .group name =>
      requireWireType key .groupStart
      let (entries, rest) ← enter (some key.number) (.named t name) start bytes
      return (nested name entries, rest)

/-- Skips a field without a meaning. Outside the entries of maps only groups need a level. -/
def skipField (enter : MessageReader) (depth : Nat) (shape : Shape) (key : Wire.Key)
    (bytes : Bytes) : Except Wire.Fault Bytes := do
  match shape, key.wireType with
  | .mapEntry _, _ =>
    Wire.passOver depth
    return (← Wire.readPayload depth key bytes).2
  | _, .groupStart => return (← enter (some key.number) .unknown [] bytes).2
  | _, wireType => Wire.skipPlain wireType bytes

/-- Reads the fields of a message. Every field has a key, so `fuel` need not exceed the number of
bytes; `depth` is the number of levels that may still be entered. -/
def readMessage (t : TypeTable) : (fuel depth : Nat) → MessageReader
  | _, _, none, _, entries, [] => .ok (entries, [])
  | 0, _, _, _, _, _ => .error .underflow
  | fuel + 1, depth, group, shape, entries, bytes => do
    let (key, rest) ← Wire.readKey bytes
    if key.wireType = .groupEnd then
      if group = some key.number then return (entries, rest) else throw .strayGroupEnd
    let enter : MessageReader := fun group shape entries bytes =>
      match depth with
      | 0 => .error .tooDeep
      | below + 1 => readMessage t fuel below group shape entries bytes
    let enterEntry : MessageReader := fun group shape entries bytes =>
      readMessage t fuel (depth - 1) group shape entries bytes
    match shape.field? t key.number with
    | none =>
      let rest ← skipField enter depth shape key rest
      readMessage t fuel depth group shape entries rest
    | some f =>
      let (v, rest) ← readValue t enter enterEntry f (entries.lookup f.number) key rest
      readMessage t fuel depth group shape (entries.set (shape.isRival f) f v) rest

/-- The entries of a message of a type. -/
def readEntries (t : TypeTable) (m : MessageEntry) (bytes : Bytes) :
    Except Wire.Fault OptionEntries := do
  return (← readMessage t bytes.length Wire.depthLimit none (.message m) [] bytes).1

end ServiceCli.Descriptor
