/-!
What can be wrong with a set of protobuf files that is well formed as a message.
-/
namespace ServiceCli.Descriptor

inductive Fault where
  /-- The files, or options in them, are no messages of their types. -/
  | malformed
  | repeatedFile (name : String)
  | definedTwice (name : String)
  | definedElsewhere (name file : String)
  | camelCaseClash (first second : String)
  | emptyEnum
  | nonzeroFirstValue
  | missingImport (name : String)
  | badImportIndex
  | badFieldNumber (number : Int)
  | reservedNumber (number first last : Int)
  | extensionNumber (number first last : Int)
  | notExtensible (message : String) (number : Int)
  | missingPart (path : List Nat)
  | undefinedName (name : String)
  | shadowedName (name meaning : String)
  | wrongKind (name expected : String)
  | badDefault (value type : String)
  | badOneofIndex
  | repeatedNumber (number : Int)
  | repeatedJsonName (name : String)
  | repeatedEnumNumber (number : Int)
  | reservedEnumNumber (number first last : Int)
  | unknownOption (name : String)
  | wrongExtendee (name expected actual : String)
  | optionWithoutFields (name type : String)
  | badOptionValue (name type value : String)
  | repeatedOption (name : String)
deriving Repr, DecidableEq

def Fault.message : Fault → String
  | malformed => "failed to decode file descriptor set"
  | repeatedFile name => s!"a different file named '{name}' has already been added"
  | definedTwice name => s!"name '{name}' is defined twice"
  | definedElsewhere name file => s!"name '{name}' is already defined in file '{file}'"
  | camelCaseClash first second =>
    s!"camel-case name of field '{first}' conflicts with field '{second}'"
  | emptyEnum => "enums must have at least one value"
  | nonzeroFirstValue => "the first value for proto3 enums must be 0"
  | missingImport name => s!"imported file '{name}' has not been added"
  | badImportIndex => "invalid import index"
  | badFieldNumber number => s!"invalid field number '{number}'"
  | reservedNumber number first last =>
    s!"field number '{number}' conflicts with reserved range '{first} to {last}'"
  | extensionNumber number first last =>
    s!"field number '{number}' conflicts with extension range '{first} to {last}'"
  | notExtensible message number =>
    s!"message '{message}' does not define '{number}' as an extension number"
  | missingPart path => s!"missing required field at {path}"
  | undefinedName name => s!"name '{name}' is not defined"
  | shadowedName name meaning => s!"'{name}' resolves to '{meaning}', which is not defined"
  | wrongKind name expected => s!"'{name}' is not {expected}"
  | badDefault value type => s!"invalid default value '{value}' for type '{type}'"
  | badOneofIndex => "invalid oneof index"
  | repeatedNumber number => s!"field number '{number}' is already used"
  | repeatedJsonName name => s!"a field with JSON name '{name}' is already defined"
  | repeatedEnumNumber number => s!"enum number '{number}' has already been used"
  | reservedEnumNumber number first last =>
    s!"enum number '{number}' conflicts with reserved range '{first} to {last}'"
  | unknownOption name => s!"option field '{name}' is not defined"
  | wrongExtendee name expected actual =>
    s!"expected an extension to type '{expected}', but '{name}' extends '{actual}'"
  | optionWithoutFields name type => s!"cannot set field for option '{name}' value of type '{type}'"
  | badOptionValue name type value =>
    s!"expected a value of type '{type}' for option '{name}', but found '{value}'"
  | repeatedOption name => s!"option field '{name}' has already been set"

end ServiceCli.Descriptor
