/-!
The kinds of declarations that carry options.
-/
namespace ServiceCli.Descriptor

inductive OptionsKind where
  | file
  | message
  | extensionRange
  | field
  | oneof
  | enumeration
  | enumValue
  | service
  | method
deriving Repr, DecidableEq

/-- The full name of the message that describes the options of a kind. -/
def OptionsKind.typeName : OptionsKind → String
  | file => "google.protobuf.FileOptions"
  | message => "google.protobuf.MessageOptions"
  | extensionRange => "google.protobuf.ExtensionRangeOptions"
  | field => "google.protobuf.FieldOptions"
  | oneof => "google.protobuf.OneofOptions"
  | enumeration => "google.protobuf.EnumOptions"
  | enumValue => "google.protobuf.EnumValueOptions"
  | service => "google.protobuf.ServiceOptions"
  | method => "google.protobuf.MethodOptions"

/-- The field in which options not yet interpreted are collected. -/
def uninterpretedNumber : Nat := 999

/-- The number of the option that marks a message as the entry of a map. -/
def mapEntryNumber : Nat := 7

/-- The number and the name of the option that lets values of an enumeration share a number. -/
def allowAliasNumber : Nat := 2

def allowAliasName : String := "allow_alias"

end ServiceCli.Descriptor
