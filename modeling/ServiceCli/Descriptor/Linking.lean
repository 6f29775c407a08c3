import ServiceCli.Descriptor.Names
import ServiceCli.Descriptor.Types
import ServiceCli.Number.Numeral
import ServiceCli.Text.ByteEscapes
import ServiceCli.Wire.Writing

/-!
Resolution of the references between declarations, and the checks of numbers, defaults and indices
that go with it. Declarations are taken one by one; the first fault ends the resolution.
-/
namespace ServiceCli.Descriptor

def EnumRecord.valueNumbers (r : EnumRecord) : List (String × Int) :=
  r.values.map fun v => (v.name.getD "", v.number.getD 0)

/-- What resolving a declaration yields. -/
inductive Link where
  | message (entry : MessageEntry)
  | field (ownerName : String) (entry : FieldEntry)
  | enumeration (entry : EnumEntry)
  | extension (entry : ExtensionEntry)
  | method (input output : String)
  | none
deriving Repr, DecidableEq

/-- A set of files with the meaning of its names. -/
structure NamedFiles where
  files : List FileRecord
  names : Names
  declarations : List Declaration

namespace NamedFiles

variable (fs : NamedFiles)

/-- Resolves a name at a declaration, in the scope of the declaration itself. -/
def resolve (wanted : Wanted) (d : Declaration) (name : String) :
    Except Fault (String × NameKind) :=
  resolveName fs.names (visibleFiles fs.files d.file) wanted d.fullName name

def resolveMessage (d : Declaration) (name : String) : Except Fault String := do
  return (← fs.resolve .message d name).1

/-- The values of an enumeration with their numbers. -/
def enumValues (fullName : String) : List (String × Int) :=
  (fs.declarations.findSome? fun d =>
    match d.declared with
    | .enumeration r => if d.fullName = fullName then some r.valueNumbers else none
    | _ => none).getD []

def messageRecord? (fullName : String) : Option MessageRecord :=
  fs.declarations.findSome? fun d =>
    match d.declared with
    | .message r => if d.fullName = fullName then some r else none
    | _ => none

end NamedFiles

/-- The number of the type of groups in a field record. -/
def groupTypeNumber : Int := 10

/-- Numbers of the types that must be named: groups, messages and enumerations. -/
def namedTypeNumbers : List Int := [groupTypeNumber, 11, 14]

/-- The type of a field. A type name decides if there is one, and otherwise the type number. -/
def fieldType (fs : NamedFiles) (d : Declaration) (r : FieldRecord) : Except Fault ValueType := do
  let number := r.type.getD 1
  match r.typeName.getD "" with
  | "" =>
    if number ∈ namedTypeNumbers then throw (.missingPart (d.path ++ [6]))
    return .scalar ((Scalar.ofTypeNumber? number).getD .double)
  | name =>
    match ← fs.resolve .messageOrEnum d name with
    | (full, .message) => return if number = groupTypeNumber then .group full else .message full
    | (full, _) => return .enumeration full

/-- The value that a text stands for as the default of a field of a type. -/
def defaultValue? (fs : NamedFiles) (value : String) : ValueType → Option Atom
  | .scalar .double => (Number.real? value.toList).map fun x => .double x.toBits.toNat
  | .scalar .float => (Number.real? value.toList).map fun x => .float x.toFloat32.toBits.toNat
  | .scalar .int32 | .scalar .sint32 | .scalar .sfixed32 =>
    (Number.signed? 32 value.toList).map .int32
  | .scalar .int64 | .scalar .sint64 | .scalar .sfixed64 =>
    (Number.signed? 64 value.toList).map .int64
  | .scalar .uint32 | .scalar .fixed32 => (Number.bounded? 32 value.toList).map .uint32
  | .scalar .uint64 | .scalar .fixed64 => (Number.bounded? 64 value.toList).map .uint64
  | .scalar .bool =>
    match value with
    | "true" => some (.bool true)
    | "false" => some (.bool false)
    | _ => none
  | .scalar .string => some (.text value)
  | .scalar .bytes => (Text.unescape? (Wire.textBytes value)).map .bytes
  | .enumeration name => ((fs.enumValues name).lookup value).map .choice
  | .message _ | .group _ => none

/-- The declared default of a field, which must be a value of its type. -/
def declaredDefault (fs : NamedFiles) (r : FieldRecord) (type : ValueType) :
    Except Fault (Option Atom) :=
  match r.default with
  | none => .ok none
  | some value =>
    match defaultValue? fs value type with
    | none => .error (.badDefault value type.sort)
    | some a => .ok (some a)

/-- The value of a field without a declared default: zero, or the first value of an enumeration. -/
def naturalDefault (fs : NamedFiles) : ValueType → Option Atom
  | .scalar s => some (.zero s)
  | .enumeration name => (fs.enumValues name).head?.map fun v => .choice v.2
  | .message _ | .group _ => none

/-- Whether a field that is not a member of a oneof tells absence from every value. -/
def tellsAbsence (fs : NamedFiles) (d : Declaration) (r : FieldRecord) (type : ValueType) : Bool :=
  r.optionalInProto3.getD false || type.message?.isSome || !isProto3 fs.files d.file

/-- Field numbers have 29 bits, and a thousand of them are kept back. -/
def isFieldNumber (n : Int) : Bool :=
  1 ≤ n && n < Number.rangeSize 29 && !(19000 ≤ n && n < 20000)

/-- Whether a range that ends before its `stop` contains a number. -/
def RangeRecord.contains (r : RangeRecord) (n : Int) : Bool :=
  r.start.getD 0 ≤ n && n < r.stop.getD 0

/-- A field's number must be free in the message that the field is part of: inside its ranges for
extensions if the field is one, and outside of them otherwise. -/
def checkFieldNumber (owner : MessageRecord) (ownerName : String) (r : FieldRecord) :
    Except Fault Unit := do
  let n := r.number.getD 0
  if !isFieldNumber n then throw (.badFieldNumber n)
  if let some range := owner.reservedRanges.find? (·.contains n) then
    throw (.reservedNumber n (range.start.getD 0) (range.stop.getD 0 - 1))
  match owner.extensionRanges.find? (·.contains n), r.extendee with
  | some range, none =>
    throw (.extensionNumber n (range.start.getD 0) (range.stop.getD 0 - 1))
  | none, some _ => throw (.notExtensible ownerName n)
  | _, _ => return

/-- The name of a field in JSON, unless it has another: underscores are dropped and the letters
after them are capital. -/
def camelCase : (capital : Bool) → List Char → List Char
  | _, [] => []
  | capital, c :: cs =>
    if c = '_' then camelCase true cs
    else (if capital then c.toUpper else c) :: camelCase false cs

def FieldRecord.nameInJson (r : FieldRecord) : String :=
  r.jsonName.getD (String.ofList (camelCase false (r.name.getD "").toList))

/-- Among the fields before it, a field's number and name in JSON must be new. -/
def checkNewField (earlier : List FieldRecord) (r : FieldRecord) : Except Fault Unit := do
  if earlier.any (·.number.getD 0 == r.number.getD 0) then
    throw (.repeatedNumber (r.number.getD 0))
  if earlier.any (·.nameInJson == r.nameInJson) then
    throw (.repeatedJsonName (r.jsonName.getD ""))

def checkImports (fs : NamedFiles) (r : FileRecord) : Except Fault Unit := do
  for name in r.dependencies do
    if (filePosition fs.files name).isNone then throw (.missingImport name)
  if !(r.publicDependencies ++ r.weakDependencies).all fun k => (r.importAt? k).isSome then
    throw .badImportIndex

/-- Whether the values of an enumeration may share numbers, as an option of it says, interpreted or
not. -/
def EnumRecord.allowsAlias (r : EnumRecord) : Bool :=
  r.options.any fun o =>
    o.flag allowAliasNumber || o.uninterpreted.any fun u =>
      u.name == [⟨allowAliasName, false⟩] && u.identifier == some "true"

/-- A value's number is not reserved, and new among the values before it unless they may share
numbers. An enumeration's reserved ranges include their ends. -/
def checkEnumValue (owner : EnumRecord) (index : Nat) (v : EnumValueRecord) :
    Except Fault Unit := do
  let n := v.number.getD 0
  if let some r := owner.reservedRanges.find? fun r => r.start.getD 0 ≤ n && n ≤ r.stop.getD 0 then
    throw (.reservedEnumNumber n (r.start.getD 0) (r.stop.getD 0))
  if !owner.allowsAlias && (owner.values.take index).any (·.number.getD 0 == n) then
    throw (.repeatedEnumNumber n)

def linkField (fs : NamedFiles) (d : Declaration) (r : FieldRecord) (index : Nat)
    (ownerName : String) (owner : MessageRecord) : Except Fault Link := do
  checkFieldNumber owner ownerName r
  let type ← fieldType fs d r
  let default ← declaredDefault fs r type
  if let some k := r.oneofIndex then
    if k < 0 ∨ owner.oneofs.length ≤ k then throw .badOneofIndex
  checkNewField (owner.fields.take index) r
  return .field ownerName
    { name := r.name.getD "", number := r.number.getD 0, type
      label := Label.ofNumber (r.label.getD 1), oneof := r.oneofIndex.map Int.toNat
      absentAs :=
        if r.oneofIndex.isSome || tellsAbsence fs d r type then none
        else default.or (naturalDefault fs type) }

/-- Extensions tell absence from every value. -/
def linkExtension (fs : NamedFiles) (d : Declaration) (r : FieldRecord) : Except Fault Link := do
  let extendee ← fs.resolveMessage d (r.extendee.getD "")
  if let some owner := fs.messageRecord? extendee then checkFieldNumber owner extendee r
  let type ← fieldType fs d r
  let _ ← declaredDefault fs r type
  return .extension ⟨d.fullName, extendee,
    { name := r.name.getD "", number := r.number.getD 0, type
      label := Label.ofNumber (r.label.getD 1) }⟩

/-- Resolves one declaration. -/
def link (fs : NamedFiles) (d : Declaration) : Except Fault Link := do
  match d.declared with
  | .file r =>
    checkImports fs r
    return .none
  | .message r =>
    return .message
      { name := r.name.getD "", fullName := d.fullName, fields := []
        isMapEntry := r.options.any (·.flag mapEntryNumber) }
  | .field r index ownerName owner => linkField fs d r index ownerName owner
  | .enumeration r => return .enumeration ⟨d.fullName, r.valueNumbers⟩
  | .enumValue r index owner =>
    checkEnumValue owner index r
    return .none
  | .method r _ =>
    let input ← fs.resolveMessage d (r.input.getD "")
    let output ← fs.resolveMessage d (r.output.getD "")
    return .method input output
  | .extension r => linkExtension fs d r
  | .extensionRange _ | .oneof _ | .service _ => return .none

/-- The types that a list of resolved declarations makes up. -/
def TypeTable.ofLinks (links : List Link) : TypeTable where
  messages := links.filterMap fun
    | .message m => some { m with
        fields := links.filterMap fun
          | .field owner f => if owner = m.fullName then some f else none
          | _ => none }
    | _ => none
  enums := links.filterMap fun
    | .enumeration e => some e
    | _ => none
  extensions := links.filterMap fun
    | .extension e => some e
    | _ => none

end ServiceCli.Descriptor
