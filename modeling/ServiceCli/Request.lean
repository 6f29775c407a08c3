import ServiceCli.Catalog.OfPool
import ServiceCli.Descriptor.Reading

/-!
The request of a protobuf compiler: the files to make commands for, a parameter, and all files as
bytes. The parameter can be read without looking into the files.
-/
namespace ServiceCli

open Wire (Bytes)

/-- A request whose files have not been looked into. -/
structure RawRequest where
  targets : List String := []
  parameter : Option String := none
  files : List Bytes := []
deriving Repr, DecidableEq

namespace RawRequest

/-- The names of the fields, for messages about faults inside them. -/
def fieldName? : Nat → Option String
  | 1 => some "file_to_generate"
  | 2 => some "parameter"
  | 15 => some "proto_file"
  | _ => none

/-- Reads the bytes of a known field. -/
def readBytes (key : Wire.Key) (bytes : Bytes) : Except Wire.Fault (Bytes × Bytes) :=
  if key.wireType = .delimited then Wire.readDelimited bytes
  else .error (.wrongWireType key.wireType .delimited)

def readText (key : Wire.Key) (bytes : Bytes) : Except Wire.Fault (String × Bytes) := do
  let (b, rest) ← readBytes key bytes
  match Wire.text? b with
  | none => throw .notText
  | some s => return (s, rest)

/-- Reads one field after its key; fields of other numbers are passed over. -/
def readField (r : RawRequest) (key : Wire.Key) (bytes : Bytes) :
    Except Wire.Fault (RawRequest × Bytes) := do
  match key.number with
  | 1 => let (s, rest) ← readText key bytes; return ({ r with targets := r.targets ++ [s] }, rest)
  | 2 => let (s, rest) ← readText key bytes; return ({ r with parameter := some s }, rest)
  | 15 => let (b, rest) ← readBytes key bytes; return ({ r with files := r.files ++ [b] }, rest)
  | _ => let (_, rest) ← Wire.readPayload Wire.depthLimit key bytes; return (r, rest)

/-- Reads the fields in at most `fuel` bytes. -/
def readWithin : (fuel : Nat) → RawRequest → Bytes → Except RequestFault RawRequest
  | _, r, [] => .ok r
  | 0, _, _ :: _ => .error (.wire none .underflow)
  | fuel + 1, r, b :: bs =>
    match Wire.readKey (b :: bs) with
    | .error e => .error (.wire none e)
    | .ok (key, rest) =>
      match readField r key rest with
      | .error e => .error (.wire (fieldName? key.number) e)
      | .ok (r, rest) => readWithin fuel r rest

def ofBytes (bytes : Bytes) : Except RequestFault RawRequest := readWithin bytes.length {} bytes

end RawRequest

/-- The parameter of a request, whatever its files hold. -/
def peekParameter (bytes : Bytes) : Except Failure String :=
  match RawRequest.ofBytes bytes with
  | .error e => .error (.decode e)
  | .ok raw => .ok (raw.parameter.getD "")

structure Request where
  parameter : String
  catalog : Catalog

namespace Request

/-- The descriptors of the files. All files are read before any is looked at. -/
def poolOf (files : List Bytes) : Except Stop Descriptor.Pool := do
  match files.mapM Descriptor.FileRecord.ofBytes with
  | .error _ => throw (.failure (.decode (.descriptors .malformed)))
  | .ok records =>
    if !records.all (·.hasKnownDialect) then throw (.crash .unknownDialect)
    match Descriptor.Pool.ofFiles records with
    | .error e => throw (.failure (.decode (.descriptors e)))
    | .ok pool =>
      if !pool.keepsForms then throw (.crash .foreignOption)
      return pool

def ofBytes (bytes : Bytes) : Except Stop Request := do
  match RawRequest.ofBytes bytes with
  | .error e => throw (.failure (.decode e))
  | .ok raw =>
    let pool ← poolOf raw.files
    return ⟨raw.parameter.getD "", ← Catalog.ofPool pool raw.targets⟩

end Request

end ServiceCli
