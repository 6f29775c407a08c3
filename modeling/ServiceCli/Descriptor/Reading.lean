import ServiceCli.Descriptor.Record
import ServiceCli.Descriptor.StandardOptions

/-!
Records of protobuf files from the wire format. Of several occurrences of a field that is not
repeated the last counts, except that options add up; fields without a meaning are passed over.
-/
namespace ServiceCli.Descriptor

open Wire (Bytes Payload)

/-- Reads a nested message field by field. `depth` is the number of levels that may be entered. -/
def readRecord {α : Type} (start : α) (step : Nat → α → Wire.Field → Except Wire.Fault α) :
    (depth : Nat) → Payload → Except Wire.Fault α
  | 0, _ => .error .tooDeep
  | depth + 1, p => do
    let fs ← Wire.fields depth (← p.bytes)
    fs.foldlM (step depth) start

/-- A field without a meaning leaves the record as it is. -/
def unchanged {α : Type} (depth : Nat) (a : α) : Except Wire.Fault α :=
  (Wire.passOver depth).map fun _ => a

def OptionNamePart.read : Nat → Payload → Except Wire.Fault OptionNamePart :=
  readRecord {} fun depth r f =>
    match f.number with
    | 1 => return { r with name := ← f.payload.text }
    | 2 => return { r with isExtension := ← f.payload.bool }
    | _ => unchanged depth r

def UninterpretedOption.read : Nat → Payload → Except Wire.Fault UninterpretedOption :=
  readRecord {} fun depth r f =>
    match f.number with
    | 2 => return { r with name := r.name ++ [← OptionNamePart.read depth f.payload] }
    | 3 => return { r with identifier := some (← f.payload.text) }
    | 4 => return { r with positive := some (← f.payload.natural) }
    | 5 => return { r with negative := some (← f.payload.int64) }
    | 6 => return { r with double := some (← f.payload.fixed64Bits) }
    | 7 => return { r with text := some (← f.payload.bytes) }
    | 8 => return { r with aggregate := some (← f.payload.text) }
    | _ => unchanged depth r

/-- Options of one kind, added to those already read. Each of them needs a level, also one that is
no message. -/
def OptionsRecord.read (kind : OptionsKind) (sofar : Option OptionsRecord) :
    Nat → Payload → Except Wire.Fault OptionsRecord :=
  readRecord (sofar.getD {}) fun depth r f => do
    Wire.passOver depth
    let r := { r with fields := r.fields ++ [f] }
    if f.number = uninterpretedNumber then
      return { r with
        uninterpreted := r.uninterpreted ++ [← UninterpretedOption.read depth f.payload] }
    else
      Standard.check kind f
      return r

def FieldRecord.read : Nat → Payload → Except Wire.Fault FieldRecord :=
  readRecord {} fun depth r f =>
    match f.number with
    | 1 => return { r with name := some (← f.payload.text) }
    | 2 => return { r with extendee := some (← f.payload.text) }
    | 3 => return { r with number := some (← f.payload.int32) }
    | 4 => return { r with label := some (← f.payload.int32) }
    | 5 => return { r with type := some (← f.payload.int32) }
    | 6 => return { r with typeName := some (← f.payload.text) }
    | 7 => return { r with default := some (← f.payload.text) }
    | 8 => return { r with options := some (← OptionsRecord.read .field r.options depth f.payload) }
    | 9 => return { r with oneofIndex := some (← f.payload.int32) }
    | 10 => return { r with jsonName := some (← f.payload.text) }
    | 17 => return { r with optionalInProto3 := some (← f.payload.bool) }
    | _ => unchanged depth r

def OneofRecord.read : Nat → Payload → Except Wire.Fault OneofRecord :=
  readRecord {} fun depth r f =>
    match f.number with
    | 1 => return { r with name := some (← f.payload.text) }
    | 2 => return { r with options := some (← OptionsRecord.read .oneof r.options depth f.payload) }
    | _ => unchanged depth r

def RangeRecord.read : Nat → Payload → Except Wire.Fault RangeRecord :=
  readRecord {} fun depth r f =>
    match f.number with
    | 1 => return { r with start := some (← f.payload.int32) }
    | 2 => return { r with stop := some (← f.payload.int32) }
    | _ => unchanged depth r

/-- A range of numbers left to extensions, which may carry options. -/
def RangeRecord.readExtensible : Nat → Payload → Except Wire.Fault RangeRecord :=
  readRecord {} fun depth r f =>
    match f.number with
    | 1 => return { r with start := some (← f.payload.int32) }
    | 2 => return { r with stop := some (← f.payload.int32) }
    | 3 => return { r with
        options := some (← OptionsRecord.read .extensionRange r.options depth f.payload) }
    | _ => unchanged depth r

def EnumValueRecord.read : Nat → Payload → Except Wire.Fault EnumValueRecord :=
  readRecord {} fun depth r f =>
    match f.number with
    | 1 => return { r with name := some (← f.payload.text) }
    | 2 => return { r with number := some (← f.payload.int32) }
    | 3 =>
      return { r with options := some (← OptionsRecord.read .enumValue r.options depth f.payload) }
    | _ => unchanged depth r

def EnumRecord.read : Nat → Payload → Except Wire.Fault EnumRecord :=
  readRecord {} fun depth r f =>
    match f.number with
    | 1 => return { r with name := some (← f.payload.text) }
    | 2 => return { r with values := r.values ++ [← EnumValueRecord.read depth f.payload] }
    | 3 => return { r with
        options := some (← OptionsRecord.read .enumeration r.options depth f.payload) }
    | 4 =>
      return { r with reservedRanges := r.reservedRanges ++ [← RangeRecord.read depth f.payload] }
    | 5 => return { r with reservedNames := r.reservedNames ++ [← f.payload.text] }
    | _ => unchanged depth r

def MessageRecord.read : Nat → Payload → Except Wire.Fault MessageRecord
  | 0, _ => .error .tooDeep
  | depth + 1, p => do
    let fs ← Wire.fields depth (← p.bytes)
    fs.foldlM (fun r f =>
      match f.number with
      | 1 => return { r with name := some (← f.payload.text) }
      | 2 => return { r with fields := r.fields ++ [← FieldRecord.read depth f.payload] }
      | 3 => return { r with nested := r.nested ++ [← MessageRecord.read depth f.payload] }
      | 4 => return { r with enums := r.enums ++ [← EnumRecord.read depth f.payload] }
      | 5 =>
        return { r with
          extensionRanges := r.extensionRanges ++ [← RangeRecord.readExtensible depth f.payload] }
      | 6 => return { r with extensions := r.extensions ++ [← FieldRecord.read depth f.payload] }
      | 7 =>
        return { r with options := some (← OptionsRecord.read .message r.options depth f.payload) }
      | 8 => return { r with oneofs := r.oneofs ++ [← OneofRecord.read depth f.payload] }
      | 9 =>
        return { r with reservedRanges := r.reservedRanges ++ [← RangeRecord.read depth f.payload] }
      | 10 => return { r with reservedNames := r.reservedNames ++ [← f.payload.text] }
      | _ => unchanged depth r) {}

def MethodRecord.read : Nat → Payload → Except Wire.Fault MethodRecord :=
  readRecord {} fun depth r f =>
    match f.number with
    | 1 => return { r with name := some (← f.payload.text) }
    | 2 => return { r with input := some (← f.payload.text) }
    | 3 => return { r with output := some (← f.payload.text) }
    | 4 => return { r with
        options := some (← OptionsRecord.read .method r.options depth f.payload) }
    | 5 => return { r with clientStreaming := some (← f.payload.bool) }
    | 6 => return { r with serverStreaming := some (← f.payload.bool) }
    | _ => unchanged depth r

def ServiceRecord.read : Nat → Payload → Except Wire.Fault ServiceRecord :=
  readRecord {} fun depth r f =>
    match f.number with
    | 1 => return { r with name := some (← f.payload.text) }
    | 2 => return { r with methods := r.methods ++ [← MethodRecord.read depth f.payload] }
    | 3 => return { r with
        options := some (← OptionsRecord.read .service r.options depth f.payload) }
    | _ => unchanged depth r

/-- Source locations are checked for their form and not kept. -/
def checkLocation : Nat → Payload → Except Wire.Fault Unit :=
  readRecord () fun depth _ f =>
    match f.number with
    | 1 | 2 => f.payload.int32s.map fun _ => ()
    | 3 | 4 | 6 => f.payload.text.map fun _ => ()
    | _ => unchanged depth ()

def checkSourceInfo : Nat → Payload → Except Wire.Fault Unit :=
  readRecord () fun depth _ f =>
    match f.number with
    | 1 => checkLocation depth f.payload
    | _ => unchanged depth ()

def FileRecord.read : Nat → Payload → Except Wire.Fault FileRecord :=
  readRecord {} fun depth r f =>
    match f.number with
    | 1 => return { r with name := some (← f.payload.text) }
    | 2 => return { r with package := some (← f.payload.text) }
    | 3 => return { r with dependencies := r.dependencies ++ [← f.payload.text] }
    | 4 => return { r with messages := r.messages ++ [← MessageRecord.read depth f.payload] }
    | 5 => return { r with enums := r.enums ++ [← EnumRecord.read depth f.payload] }
    | 6 => return { r with services := r.services ++ [← ServiceRecord.read depth f.payload] }
    | 7 => return { r with extensions := r.extensions ++ [← FieldRecord.read depth f.payload] }
    | 8 => return { r with options := some (← OptionsRecord.read .file r.options depth f.payload) }
    | 9 => do checkSourceInfo depth f.payload; return r
    | 10 => return { r with publicDependencies := r.publicDependencies ++ (← f.payload.int32s) }
    | 11 => return { r with weakDependencies := r.weakDependencies ++ (← f.payload.int32s) }
    | 12 => return { r with dialect := some (← f.payload.text) }
    | _ => unchanged depth r

/-- A file on its own. It counts as one level, as it would inside a set of files. -/
def FileRecord.ofBytes (bytes : Bytes) : Except Wire.Fault FileRecord :=
  FileRecord.read Wire.depthLimit (.delimited bytes)

end ServiceCli.Descriptor
