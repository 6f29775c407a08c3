import ServiceCli.Descriptor.OptionsKind
import ServiceCli.Descriptor.Writing
import ServiceCli.Scalar
import ServiceCli.Text.Words

/-!
Small protobuf files and requests, built by hand as a compiler would write them.
-/
namespace ServiceCli.Sample

open Descriptor
open Wire (Bytes)

/-- The type of a field in a sample. -/
inductive FieldType where
  | scalar (s : Scalar)
  | group
  | message
  | enumeration
deriving Repr, DecidableEq

namespace FieldType

def number : FieldType → Nat
  | scalar s => s.typeNumber
  | group => 10
  | message => 11
  | enumeration => 14

def ofName? : String → Option FieldType
  | "group" => some group
  | "message" => some message
  | "enum" => some enumeration
  | name => (Scalar.ofName? name).map scalar

end FieldType

def field (name : String) (number : Int) (type : FieldType) (typeName : Option String := none) :
    FieldRecord where
  name := some name
  number := some number
  label := some 1
  type := some type.number
  typeName := typeName
  jsonName := some (Text.lowerCamel name)

def repeated (f : FieldRecord) : FieldRecord := { f with label := some 3 }

def message (name : String) (fields : List FieldRecord) : MessageRecord where
  name := some name
  fields := fields

/-- The entry message of a map with keys that are texts. -/
def mapEntry (name : String) (value : FieldType) (valueTypeName : Option String) :
    MessageRecord where
  name := some name
  fields := [field "key" 1 (.scalar .string), field "value" 2 value valueTypeName]
  options := some { fields := [⟨mapEntryNumber, .varint 1⟩] }

/-- Adds a map and its entry message to a message with the path `path`. -/
def withMap (m : MessageRecord) (path name : String) (number : Int) (value : FieldType)
    (valueTypeName : Option String := none) : MessageRecord :=
  let entryName := Text.upperCamel name ++ "Entry"
  { m with
    nested := m.nested ++ [mapEntry entryName value valueTypeName]
    fields := m.fields ++
      [repeated (field name number .message (some (path ++ "." ++ entryName)))] }

/-- An enumeration whose values count up from zero. -/
def enumeration (name : String) (values : List String) : EnumRecord where
  name := some name
  values := values.zipIdx.map fun (v, i) => { name := some v, number := some (i : Int) }

/-- A method that answers with what it is asked. -/
def method (name input : String) : MethodRecord where
  name := some name
  input := some input
  output := some input

def service (name : String) (methods : List MethodRecord) : ServiceRecord where
  name := some name
  methods := methods

def file (name package : String) (messages : List MessageRecord) (enums : List EnumRecord)
    (services : List ServiceRecord) : FileRecord where
  name := some name
  package := some package
  messages := messages
  enums := enums
  services := services
  dialect := some "proto3"

/-- A request whose files are given as bytes. -/
def rawRequest (targets : List String) (parameter : String) (files : List Bytes) : Bytes :=
  Wire.writeAll Wire.writeText 1 targets ++ Wire.writeText 2 parameter ++
    Wire.writeAll Wire.writeBytes 15 files

def request (targets : List String) (parameter : String) (files : List FileRecord) : Bytes :=
  Wire.writeAll Wire.writeText 1 targets ++ Wire.writeText 2 parameter ++
    Wire.writeAll (writeRecord FileRecord.write) 15 files

structure RawMethod where
  name : String
  input : String
  options : Bytes

structure RawService where
  name : String
  methods : List RawMethod

def RawMethod.write (m : RawMethod) : Bytes :=
  Wire.writeText 1 m.name ++ Wire.writeText 2 m.input ++ Wire.writeText 3 m.input ++
    Wire.writeBytes 4 m.options

def RawService.write (s : RawService) : Bytes :=
  Wire.writeText 1 s.name ++ Wire.writeAll (writeRecord RawMethod.write) 2 s.methods

/-- A file with services after everything else in it. -/
def withRawServices (f : FileRecord) (services : List RawService) : Bytes :=
  f.write ++ Wire.writeAll (writeRecord RawService.write) 6 services

/-- The numbers of the options that name the resource and the verb of a method. -/
def resourceOption : Nat := 52001

def verbOption : Nat := 52002

def cliOptions (resource verb : Option String) : Bytes :=
  Wire.writeOptional Wire.writeText resourceOption resource ++
    Wire.writeOptional Wire.writeText verbOption verb

/-- A verb that is a number. -/
def int32VerbOption (value : Int) : Bytes := Wire.writeInt verbOption value

/-- The file of the standard options, with only those of methods. -/
def descriptorFile : FileRecord where
  name := some "google/protobuf/descriptor.proto"
  package := some "google.protobuf"
  messages :=
    [{ name := some "MethodOptions"
       extensionRanges := [{ start := some 1000, stop := some 536870912 }] }]
  dialect := some "proto2"

def methodExtension (name : String) (number : Nat) (type : FieldType) : FieldRecord :=
  { field name number type with extendee := some ".google.protobuf.MethodOptions" }

/-- The file of the options for resource and verb; the verb may have any type. -/
def cliOptionsFile (verbType : FieldType) : FileRecord where
  name := some "cli/options.proto"
  package := some "cli"
  dependencies := ["google/protobuf/descriptor.proto"]
  extensions :=
    [methodExtension "resource" resourceOption (.scalar .string),
     methodExtension "verb" verbOption verbType]
  dialect := some "proto3"

/-- The file of a service whose only method carries options. -/
def accountsFile : FileRecord :=
  { file "acme/accounts.proto" "acme"
      [message "GetAccountsRequest" [field "id" 1 (.scalar .string)]] [] [] with
    dependencies := ["cli/options.proto"] }

def accountsService (options : Bytes) : RawService :=
  ⟨"Accounts", [⟨"GetAccounts", ".acme.GetAccountsRequest", options⟩]⟩

/-- A request for one method with options in wire form, where the verb has a given type. -/
def annotatedRequest (verbType : FieldType) (options : Bytes) : Bytes :=
  rawRequest ["acme/accounts.proto"] ""
    [descriptorFile.write, (cliOptionsFile verbType).write,
     withRawServices accountsFile [accountsService options]]

end ServiceCli.Sample
