import ServiceCli.Descriptor.Atom

/-!
The types of a set of files after all references have been resolved.
-/
namespace ServiceCli.Descriptor

/-- The type of a value. Messages, groups and enumerations are given by full name. -/
inductive ValueType where
  | scalar (s : Scalar)
  | enumeration (name : String)
  | message (name : String)
  | group (name : String)
deriving Repr, DecidableEq

namespace ValueType

/-- How a type is called where a default value does not fit it. -/
def sort : ValueType → String
  | scalar s => s.name
  | enumeration name => name
  | message _ | group _ => "message type"

def name : ValueType → String
  | scalar s => s.name
  | enumeration name | message name | group name => name

/-- The message that values of the type are, if they are messages. -/
def message? : ValueType → Option String
  | message name | group name => some name
  | scalar _ | enumeration _ => none

end ValueType

inductive Label where
  | optional
  | required
  | repeated
deriving Repr, DecidableEq

/-- The label with a number in a field record; an unknown number means optional. -/
def Label.ofNumber : Int → Label
  | 2 => required
  | 3 => repeated
  | _ => optional

structure FieldEntry where
  name : String
  number : Int
  type : ValueType
  label : Label := .optional
  /-- The position of the oneof that the field is a member of. -/
  oneof : Option Nat := none
  /-- The value that the field has when it is absent, unless absence is told from every value. -/
  absentAs : Option Atom := none
deriving Repr, DecidableEq

structure MessageEntry where
  name : String
  fullName : String
  fields : List FieldEntry
  isMapEntry : Bool := false
deriving Repr, DecidableEq

/-- Whether a number belongs to the same oneof of a message as a field. -/
def MessageEntry.isRival (m : MessageEntry) (f : FieldEntry) (number : Int) : Bool :=
  f.oneof.isSome && m.fields.any fun g => g.number == number && g.oneof == f.oneof

structure EnumEntry where
  fullName : String
  values : List (String × Int)
deriving Repr, DecidableEq

structure ExtensionEntry where
  fullName : String
  extendee : String
  field : FieldEntry
deriving Repr, DecidableEq

/-- The types of a set of files in the order of their declarations. -/
structure TypeTable where
  messages : List MessageEntry := []
  enums : List EnumEntry := []
  extensions : List ExtensionEntry := []
deriving Repr, DecidableEq

namespace TypeTable

def message? (t : TypeTable) (fullName : String) : Option MessageEntry :=
  t.messages.find? (·.fullName == fullName)

def enum? (t : TypeTable) (fullName : String) : Option EnumEntry :=
  t.enums.find? (·.fullName == fullName)

def extension? (t : TypeTable) (fullName : String) : Option ExtensionEntry :=
  t.extensions.find? (·.fullName == fullName)

/-- The entry message of a field that holds a map: a repeated field of such messages. -/
def mapEntry? (t : TypeTable) (f : FieldEntry) : Option MessageEntry :=
  if f.label = .repeated then (f.type.message?.bind t.message?).filter (·.isMapEntry) else none

def isMap (t : TypeTable) (f : FieldEntry) : Bool := (t.mapEntry? f).isSome

/-- The field of a message with a number: one of its own, or the first extension of it. -/
def fieldNumbered? (t : TypeTable) (message : MessageEntry) (number : Int) : Option FieldEntry :=
  match message.fields.find? (·.number == number) with
  | some f => some f
  | none =>
    (t.extensions.find? fun e => e.extendee == message.fullName && e.field.number == number).map
      (·.field)

/-- The type of a field as it is written: of a map those of its keys and values, and otherwise that
of its values. -/
def typeText (t : TypeTable) (f : FieldEntry) : String :=
  match t.mapEntry? f with
  | some entry =>
    let part (number : Int) :=
      ((entry.fields.find? (·.number == number)).map (·.type.name)).getD ""
    "map<" ++ part 1 ++ ", " ++ part 2 ++ ">"
  | none => if f.label = .repeated then "repeated " ++ f.type.name else f.type.name

end TypeTable

end ServiceCli.Descriptor
