import ServiceCli.Wire.Field

/-!
Protobuf files as compilers hand them over: records whose parts may all be absent and whose
references are still names.
-/
namespace ServiceCli.Descriptor

open Wire (Bytes)

/-- One part of the dotted name of an option. Extensions stand in parentheses. -/
structure OptionNamePart where
  name : String := ""
  isExtension : Bool := false
deriving Repr, DecidableEq

/-- An option as it stands in the file, before its name and type are known. -/
structure UninterpretedOption where
  name : List OptionNamePart := []
  identifier : Option String := none
  positive : Option Nat := none
  negative : Option Int := none
  /-- The bits of a double. -/
  double : Option Nat := none
  text : Option Bytes := none
  aggregate : Option String := none
deriving Repr, DecidableEq

/-- Options in wire form, and the options among them that are not yet interpreted. -/
structure OptionsRecord where
  fields : List Wire.Field := []
  uninterpreted : List UninterpretedOption := []
deriving Repr, DecidableEq

/-- A flag among the fields of a message; of several occurrences the last counts. -/
def flagIn (fields : List Wire.Field) (number : Nat) : Bool :=
  fields.foldl (fun sofar f =>
    if f.number = number then (f.payload.bool.toOption).getD sofar else sofar) false

def OptionsRecord.flag (r : OptionsRecord) (number : Nat) : Bool := flagIn r.fields number

structure FieldRecord where
  name : Option String := none
  extendee : Option String := none
  number : Option Int := none
  label : Option Int := none
  type : Option Int := none
  typeName : Option String := none
  default : Option String := none
  options : Option OptionsRecord := none
  oneofIndex : Option Int := none
  jsonName : Option String := none
  optionalInProto3 : Option Bool := none
deriving Repr, DecidableEq

structure OneofRecord where
  name : Option String := none
  options : Option OptionsRecord := none
deriving Repr, DecidableEq

/-- A range of numbers. Whether `stop` belongs to it depends on what the range is for. -/
structure RangeRecord where
  start : Option Int := none
  stop : Option Int := none
  options : Option OptionsRecord := none
deriving Repr, DecidableEq

structure EnumValueRecord where
  name : Option String := none
  number : Option Int := none
  options : Option OptionsRecord := none
deriving Repr, DecidableEq

structure EnumRecord where
  name : Option String := none
  values : List EnumValueRecord := []
  options : Option OptionsRecord := none
  reservedRanges : List RangeRecord := []
  reservedNames : List String := []
deriving Repr, DecidableEq

structure MessageRecord where
  name : Option String := none
  fields : List FieldRecord := []
  nested : List MessageRecord := []
  enums : List EnumRecord := []
  extensionRanges : List RangeRecord := []
  extensions : List FieldRecord := []
  options : Option OptionsRecord := none
  oneofs : List OneofRecord := []
  reservedRanges : List RangeRecord := []
  reservedNames : List String := []

structure MethodRecord where
  name : Option String := none
  input : Option String := none
  output : Option String := none
  options : Option OptionsRecord := none
  clientStreaming : Option Bool := none
  serverStreaming : Option Bool := none
deriving Repr, DecidableEq

structure ServiceRecord where
  name : Option String := none
  methods : List MethodRecord := []
  options : Option OptionsRecord := none
deriving Repr, DecidableEq

structure FileRecord where
  name : Option String := none
  package : Option String := none
  dependencies : List String := []
  messages : List MessageRecord := []
  enums : List EnumRecord := []
  services : List ServiceRecord := []
  extensions : List FieldRecord := []
  options : Option OptionsRecord := none
  publicDependencies : List Int := []
  weakDependencies : List Int := []
  /-- The dialect of the file, `proto2` or `proto3`. -/
  dialect : Option String := none

end ServiceCli.Descriptor
