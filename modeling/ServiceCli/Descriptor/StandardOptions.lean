import ServiceCli.Descriptor.OptionsKind
import ServiceCli.Descriptor.Types
import ServiceCli.Text.Pieces

/-!
The options that every protobuf file knows without importing anything: the messages that describe
them, one for each kind of declaration, and the types that these refer to.
-/
namespace ServiceCli.Descriptor.Standard

def package : String := "google.protobuf"

/-- The full name of a type of the package. -/
def typeName (name : String) : String := package ++ "." ++ name

def field (type : ValueType) (name : String) (number : Int) : FieldEntry := { name, number, type }

def flag : String → Int → FieldEntry := field (.scalar .bool)

def text : String → Int → FieldEntry := field (.scalar .string)

def integer : String → Int → FieldEntry := field (.scalar .int32)

/-- One of the values of an enumeration. -/
def choice (enumName : String) : String → Int → FieldEntry :=
  field (.enumeration (typeName enumName))

/-- A message that is part of another. -/
def part (messageName : String) : String → Int → FieldEntry :=
  field (.message (typeName messageName))

def required (f : FieldEntry) : FieldEntry := { f with label := .required }

def repeated (f : FieldEntry) : FieldEntry := { f with label := .repeated }

def features (number : Int) : FieldEntry := part "FeatureSet" "features" number

/-- The options of a kind, without the field that collects options not yet interpreted. -/
def options : OptionsKind → List FieldEntry
  | .file =>
    [text "java_package" 1, text "java_outer_classname" 8, flag "java_multiple_files" 10,
     flag "java_generate_equals_and_hash" 20, flag "java_string_check_utf8" 27,
     choice "FileOptions.OptimizeMode" "optimize_for" 9, text "go_package" 11,
     flag "cc_generic_services" 16, flag "java_generic_services" 17, flag "py_generic_services" 18,
     flag "php_generic_services" 42, flag "deprecated" 23, flag "cc_enable_arenas" 31,
     text "objc_class_prefix" 36, text "csharp_namespace" 37, text "swift_prefix" 39,
     text "php_class_prefix" 40, text "php_namespace" 41, text "php_metadata_namespace" 44,
     text "ruby_package" 45, features 50]
  | .message =>
    [flag "message_set_wire_format" 1, flag "no_standard_descriptor_accessor" 2,
     flag "deprecated" 3, flag "map_entry" mapEntryNumber,
     flag "deprecated_legacy_json_field_conflicts" 11, features 12]
  | .extensionRange =>
    [repeated (part "ExtensionRangeOptions.Declaration" "declaration" 2), features 50,
     choice "ExtensionRangeOptions.VerificationState" "verification" 3]
  | .field =>
    [choice "FieldOptions.CType" "ctype" 1, flag "packed" 2,
     choice "FieldOptions.JSType" "jstype" 6, flag "lazy" 5, flag "unverified_lazy" 15,
     flag "deprecated" 3, flag "weak" 10, flag "debug_redact" 16,
     choice "FieldOptions.OptionRetention" "retention" 17,
     repeated (choice "FieldOptions.OptionTargetType" "targets" 19),
     repeated (part "FieldOptions.EditionDefault" "edition_defaults" 20), features 21]
  | .oneof => [features 1]
  | .enumeration =>
    [flag allowAliasName allowAliasNumber, flag "deprecated" 3,
     flag "deprecated_legacy_json_field_conflicts" 6, features 7]
  | .enumValue => [flag "deprecated" 1, features 2, flag "debug_redact" 3]
  | .service => [features 34, flag "deprecated" 33]
  | .method =>
    [flag "deprecated" 33, choice "MethodOptions.IdempotencyLevel" "idempotency_level" 34,
     features 35]

/-- The field in which options not yet interpreted are collected. -/
def uninterpreted : FieldEntry :=
  repeated (part "UninterpretedOption" "uninterpreted_option" uninterpretedNumber)

def kinds : List OptionsKind :=
  [.file, .message, .extensionRange, .field, .oneof, .enumeration, .enumValue, .service, .method]

/-- The messages that options consist of. -/
def parts : List (String × List FieldEntry) :=
  [("FeatureSet",
     [choice "FeatureSet.FieldPresence" "field_presence" 1,
      choice "FeatureSet.EnumType" "enum_type" 2,
      choice "FeatureSet.RepeatedFieldEncoding" "repeated_field_encoding" 3,
      choice "FeatureSet.Utf8Validation" "utf8_validation" 4,
      choice "FeatureSet.MessageEncoding" "message_encoding" 5,
      choice "FeatureSet.JsonFormat" "json_format" 6]),
   ("FieldOptions.EditionDefault", [choice "Edition" "edition" 3, text "value" 2]),
   ("ExtensionRangeOptions.Declaration",
     [integer "number" 1, text "full_name" 2, text "type" 3, flag "reserved" 5,
      flag "repeated" 6]),
   ("UninterpretedOption",
     [repeated (part "UninterpretedOption.NamePart" "name" 2), text "identifier_value" 3,
      field (.scalar .uint64) "positive_int_value" 4, field (.scalar .int64) "negative_int_value" 5,
      field (.scalar .double) "double_value" 6, field (.scalar .bytes) "string_value" 7,
      text "aggregate_value" 8]),
   ("UninterpretedOption.NamePart",
     [required (text "name_part" 1), required (flag "is_extension" 2)])]

/-- The enumerations that options choose from. -/
def enumerations : List (String × List (String × Int)) :=
  [("Edition",
     [("EDITION_UNKNOWN", 0), ("EDITION_PROTO2", 998), ("EDITION_PROTO3", 999),
      ("EDITION_2023", 1000), ("EDITION_1_TEST_ONLY", 1), ("EDITION_2_TEST_ONLY", 2),
      ("EDITION_99997_TEST_ONLY", 99997), ("EDITION_99998_TEST_ONLY", 99998),
      ("EDITION_99999_TEST_ONLY", 99999)]),
   ("FileOptions.OptimizeMode", [("SPEED", 1), ("CODE_SIZE", 2), ("LITE_RUNTIME", 3)]),
   ("FieldOptions.CType", [("STRING", 0), ("CORD", 1), ("STRING_PIECE", 2)]),
   ("FieldOptions.JSType", [("JS_NORMAL", 0), ("JS_STRING", 1), ("JS_NUMBER", 2)]),
   ("FieldOptions.OptionRetention",
     [("RETENTION_UNKNOWN", 0), ("RETENTION_RUNTIME", 1), ("RETENTION_SOURCE", 2)]),
   ("FieldOptions.OptionTargetType",
     [("TARGET_TYPE_UNKNOWN", 0), ("TARGET_TYPE_FILE", 1), ("TARGET_TYPE_EXTENSION_RANGE", 2),
      ("TARGET_TYPE_MESSAGE", 3), ("TARGET_TYPE_FIELD", 4), ("TARGET_TYPE_ONEOF", 5),
      ("TARGET_TYPE_ENUM", 6), ("TARGET_TYPE_ENUM_ENTRY", 7), ("TARGET_TYPE_SERVICE", 8),
      ("TARGET_TYPE_METHOD", 9)]),
   ("MethodOptions.IdempotencyLevel",
     [("IDEMPOTENCY_UNKNOWN", 0), ("NO_SIDE_EFFECTS", 1), ("IDEMPOTENT", 2)]),
   ("ExtensionRangeOptions.VerificationState", [("DECLARATION", 0), ("UNVERIFIED", 1)]),
   ("FeatureSet.FieldPresence",
     [("FIELD_PRESENCE_UNKNOWN", 0), ("EXPLICIT", 1), ("IMPLICIT", 2), ("LEGACY_REQUIRED", 3)]),
   ("FeatureSet.EnumType", [("ENUM_TYPE_UNKNOWN", 0), ("OPEN", 1), ("CLOSED", 2)]),
   ("FeatureSet.RepeatedFieldEncoding",
     [("REPEATED_FIELD_ENCODING_UNKNOWN", 0), ("PACKED", 1), ("EXPANDED", 2)]),
   ("FeatureSet.Utf8Validation", [("UTF8_VALIDATION_UNKNOWN", 0), ("VERIFY", 2), ("NONE", 3)]),
   ("FeatureSet.MessageEncoding",
     [("MESSAGE_ENCODING_UNKNOWN", 0), ("LENGTH_PREFIXED", 1), ("DELIMITED", 2)]),
   ("FeatureSet.JsonFormat",
     [("JSON_FORMAT_UNKNOWN", 0), ("ALLOW", 1), ("LEGACY_BEST_EFFORT", 2)])]

/-- The types of the standard options. -/
def types : TypeTable where
  messages :=
    (kinds.map fun k =>
      { name := Text.lastPart k.typeName, fullName := k.typeName,
        fields := options k ++ [uninterpreted] }) ++
    parts.map fun (name, fields) =>
      { name := Text.lastPart name, fullName := typeName name, fields }
  enums := enumerations.map fun (name, values) => ⟨typeName name, values⟩

/-- The numbers of the options that are checked as soon as a file is read, whatever message the
files describe options with. -/
def checkedNumbers : OptionsKind → List Nat
  | .file =>
    [1, 8, 9, 10, 11, 16, 17, 18, 20, 23, 27, 31, 36, 37, 39, 40, 41, 42, 44, 45]
  | .message => [1, 2, 3, mapEntryNumber]
  | .field => [1, 2, 3, 5, 6, 10]
  | .enumeration => [allowAliasNumber, 3]
  | .enumValue => [1]
  | .service => [33]
  | .method => [33, 34]
  | .extensionRange | .oneof => []

/-- The type of the option of a kind with a number. -/
def optionType? (kind : OptionsKind) (number : Nat) : Option ValueType :=
  ((options kind).find? (·.number == (number : Int))).map (·.type)

/-- Whether a field has the form that the option with its number requires, if it is one of those
that are checked. -/
def check (kind : OptionsKind) (f : Wire.Field) : Except Wire.Fault Unit :=
  if f.number ∈ checkedNumbers kind then
    match optionType? kind f.number with
    | some (.scalar s) => (Atom.ofPayload s f.payload).map fun _ => ()
    | some (.enumeration _) => f.payload.natural.map fun _ => ()
    | _ => .ok ()
  else .ok ()

end ServiceCli.Descriptor.Standard
