import ServiceCli.Descriptor.OptionsKind
import ServiceCli.Descriptor.Record

/-!
The declarations of a set of files as one list, in the order in which they are checked: a file comes
before what it declares, a message before its ranges for extensions, oneofs, fields, nested messages
and enumerations, and extensions.
-/
namespace ServiceCli.Descriptor

/-- What a declaration declares. Fields and values know the record that they belong to. -/
inductive Declared where
  | file (record : FileRecord)
  | message (record : MessageRecord)
  | extensionRange (record : RangeRecord)
  | oneof (record : OneofRecord)
  | field (record : FieldRecord) (index : Nat) (ownerName : String) (owner : MessageRecord)
  | enumeration (record : EnumRecord)
  | enumValue (record : EnumValueRecord) (index : Nat) (owner : EnumRecord)
  | service (record : ServiceRecord)
  | method (record : MethodRecord) (serviceName : String)
  | extension (record : FieldRecord)

/-- A declaration with its place: the position of its file, the numbers of the fields that lead to
it inside the file, and its full name. A range has the name of its message. -/
structure Declaration where
  file : Nat
  path : List Nat
  fullName : String
  declared : Declared

/-- A name inside a scope; the outermost scope is empty. -/
def qualify (scope name : String) : String :=
  if scope = "" then name else scope ++ "." ++ name

/-- Calls `f` with each element and its position, and joins the results. -/
def collect {α β : Type} (as : List α) (f : Nat → α → List β) : List β :=
  as.zipIdx.flatMap fun (a, i) => f i a

variable (file : Nat)

def declareEnum (path : List Nat) (scope : String) (r : EnumRecord) : List Declaration :=
  ⟨file, path, qualify scope (r.name.getD ""), .enumeration r⟩ ::
    collect r.values fun i v =>
      [⟨file, path ++ [2, i], qualify scope (v.name.getD ""), .enumValue v i r⟩]

def declareExtension (path : List Nat) (scope : String) (r : FieldRecord) : List Declaration :=
  [⟨file, path, qualify scope (r.name.getD ""), .extension r⟩]

mutual

def declareMessage (path : List Nat) (scope : String) : MessageRecord → List Declaration
  | ⟨name, fields, nested, enums, extensionRanges, extensions, options, oneofs, reservedRanges,
      reservedNames⟩ =>
    let r : MessageRecord := ⟨name, fields, nested, enums, extensionRanges, extensions, options,
      oneofs, reservedRanges, reservedNames⟩
    let full := qualify scope (name.getD "")
    ⟨file, path, full, .message r⟩ ::
      (collect extensionRanges fun i range =>
        [⟨file, path ++ [5, i], full, .extensionRange range⟩]) ++
      (collect oneofs fun i o =>
        [⟨file, path ++ [8, i], qualify full (o.name.getD ""), .oneof o⟩]) ++
      (collect fields fun i f =>
        [⟨file, path ++ [2, i], qualify full (f.name.getD ""), .field f i full r⟩]) ++
      declareMessages (path ++ [3]) full 0 nested ++
      (collect enums fun i e => declareEnum file (path ++ [4, i]) full e) ++
      (collect extensions fun i e => declareExtension file (path ++ [6, i]) full e)

/-- Messages of one scope, the first of them at position `index`. -/
def declareMessages (path : List Nat) (scope : String) (index : Nat) :
    List MessageRecord → List Declaration
  | [] => []
  | m :: ms =>
    declareMessage (path ++ [index]) scope m ++ declareMessages path scope (index + 1) ms

end

def declareService (path : List Nat) (scope : String) (r : ServiceRecord) : List Declaration :=
  let name := qualify scope (r.name.getD "")
  ⟨file, path, name, .service r⟩ ::
    collect r.methods fun i m =>
      [⟨file, path ++ [2, i], qualify name (m.name.getD ""), .method m name⟩]

def declareFile (r : FileRecord) : List Declaration :=
  let scope := r.package.getD ""
  ⟨file, [], scope, .file r⟩ ::
    declareMessages file [4] scope 0 r.messages ++
    (collect r.enums fun i e => declareEnum file [5, i] scope e) ++
    (collect r.services fun i s => declareService file [6, i] scope s) ++
    (collect r.extensions fun i e => declareExtension file [7, i] scope e)

/-- All declarations of the files. -/
def declarations (files : List FileRecord) : List Declaration := collect files declareFile

/-- The options of a declaration with their kind. -/
def Declared.options : Declared → Option (OptionsKind × OptionsRecord)
  | .file r => r.options.map (.file, ·)
  | .message r => r.options.map (.message, ·)
  | .extensionRange r => r.options.map (.extensionRange, ·)
  | .oneof r => r.options.map (.oneof, ·)
  | .field r .. => r.options.map (.field, ·)
  | .enumeration r => r.options.map (.enumeration, ·)
  | .enumValue r .. => r.options.map (.enumValue, ·)
  | .service r => r.options.map (.service, ·)
  | .method r _ => r.options.map (.method, ·)
  | .extension r => r.options.map (.field, ·)

end ServiceCli.Descriptor
