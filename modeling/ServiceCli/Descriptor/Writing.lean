import ServiceCli.Descriptor.Record
import ServiceCli.Wire.Writing

/-!
Records of protobuf files in the wire format. Fields are written in the order of their numbers,
absent ones not at all.
-/
namespace ServiceCli.Descriptor

open Wire

/-- A field as it was read. -/
def writeField (f : Wire.Field) : Bytes :=
  match f.payload with
  | .varint n => writeNatural f.number n
  | .fixed64 n => writeKey f.number .fixed64 ++ fixedBytes 8 n
  | .delimited b => writeBytes f.number b
  | .group b => writeKey f.number .groupStart ++ b ++ writeKey f.number .groupEnd
  | .fixed32 n => writeKey f.number .fixed32 ++ fixedBytes 4 n

def OptionsRecord.write (r : OptionsRecord) : Bytes := r.fields.flatMap writeField

def writeOptions (number : Nat) (r : OptionsRecord) : Bytes := writeBytes number r.write

def FieldRecord.write (r : FieldRecord) : Bytes :=
  writeOptional writeText 1 r.name ++ writeOptional writeText 2 r.extendee ++
    writeOptional writeInt 3 r.number ++ writeOptional writeInt 4 r.label ++
    writeOptional writeInt 5 r.type ++ writeOptional writeText 6 r.typeName ++
    writeOptional writeText 7 r.default ++ writeOptional writeOptions 8 r.options ++
    writeOptional writeInt 9 r.oneofIndex ++ writeOptional writeText 10 r.jsonName ++
    writeOptional writeBool 17 r.optionalInProto3

def OneofRecord.write (r : OneofRecord) : Bytes :=
  writeOptional writeText 1 r.name ++ writeOptional writeOptions 2 r.options

def RangeRecord.write (r : RangeRecord) : Bytes :=
  writeOptional writeInt 1 r.start ++ writeOptional writeInt 2 r.stop ++
    writeOptional writeOptions 3 r.options

def EnumValueRecord.write (r : EnumValueRecord) : Bytes :=
  writeOptional writeText 1 r.name ++ writeOptional writeInt 2 r.number ++
    writeOptional writeOptions 3 r.options

/-- A nested record as one field. -/
def writeRecord {α : Type} (write : α → Bytes) (number : Nat) (a : α) : Bytes :=
  writeBytes number (write a)

def EnumRecord.write (r : EnumRecord) : Bytes :=
  writeOptional writeText 1 r.name ++ writeAll (writeRecord EnumValueRecord.write) 2 r.values ++
    writeOptional writeOptions 3 r.options ++
    writeAll (writeRecord RangeRecord.write) 4 r.reservedRanges ++
    writeAll writeText 5 r.reservedNames

mutual

def MessageRecord.write : MessageRecord → Bytes
  | ⟨name, fields, nested, enums, extensionRanges, extensions, options, oneofs, reservedRanges,
      reservedNames⟩ =>
    writeOptional writeText 1 name ++ writeAll (writeRecord FieldRecord.write) 2 fields ++
      MessageRecord.writeNested nested ++ writeAll (writeRecord EnumRecord.write) 4 enums ++
      writeAll (writeRecord RangeRecord.write) 5 extensionRanges ++
      writeAll (writeRecord FieldRecord.write) 6 extensions ++
      writeOptional writeOptions 7 options ++ writeAll (writeRecord OneofRecord.write) 8 oneofs ++
      writeAll (writeRecord RangeRecord.write) 9 reservedRanges ++
      writeAll writeText 10 reservedNames

def MessageRecord.writeNested : List MessageRecord → Bytes
  | [] => []
  | m :: ms => writeBytes 3 m.write ++ MessageRecord.writeNested ms

end

def MethodRecord.write (r : MethodRecord) : Bytes :=
  writeOptional writeText 1 r.name ++ writeOptional writeText 2 r.input ++
    writeOptional writeText 3 r.output ++ writeOptional writeOptions 4 r.options ++
    writeOptional writeBool 5 r.clientStreaming ++ writeOptional writeBool 6 r.serverStreaming

def ServiceRecord.write (r : ServiceRecord) : Bytes :=
  writeOptional writeText 1 r.name ++ writeAll (writeRecord MethodRecord.write) 2 r.methods ++
    writeOptional writeOptions 3 r.options

def FileRecord.write (r : FileRecord) : Bytes :=
  writeOptional writeText 1 r.name ++ writeOptional writeText 2 r.package ++
    writeAll writeText 3 r.dependencies ++
    writeAll (writeRecord MessageRecord.write) 4 r.messages ++
    writeAll (writeRecord EnumRecord.write) 5 r.enums ++
    writeAll (writeRecord ServiceRecord.write) 6 r.services ++
    writeAll (writeRecord FieldRecord.write) 7 r.extensions ++
    writeOptional writeOptions 8 r.options ++
    writeAll writeInt 10 r.publicDependencies ++ writeAll writeInt 11 r.weakDependencies ++
    writeOptional writeText 12 r.dialect

end ServiceCli.Descriptor
