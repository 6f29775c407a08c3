import ServiceCli.Descriptor.Linking
import ServiceCli.Descriptor.StandardOptions
import ServiceCli.Descriptor.ValueReading
import ServiceCli.Descriptor.Writing

/-!
Interpretation of options. The options of a declaration are read by the message that describes them,
which the files may define themselves; options that are still uninterpreted are then set one by one.
-/
namespace ServiceCli.Descriptor

/-- The message that describes options of a kind, with the types around it: the files' own if they
define it, and otherwise the standard one. -/
def optionsMessage (t : TypeTable) (kind : OptionsKind) : TypeTable × MessageEntry :=
  match t.message? kind.typeName with
  | some m => (t, m)
  | none =>
    (Standard.types, (Standard.types.message? kind.typeName).getD
      { name := "", fullName := kind.typeName, fields := [] })

/-- The dotted name of an option as it is written. A part that follows nothing but empty ones takes
no dot before it. -/
def optionName (parts : List OptionNamePart) : String :=
  parts.foldl (fun name p =>
    (if name = "" then "" else name ++ ".") ++
      if p.isExtension then "(" ++ p.name ++ ")" else p.name) ""

/-- The value of an option as it is written. -/
def UninterpretedOption.valueText (o : UninterpretedOption) : String :=
  match o.identifier, o.positive, o.negative, o.double, o.text, o.aggregate with
  | some s, _, _, _, _, _ => s
  | _, some n, _, _, _, _ => toString n
  | _, _, some i, _, _, _ => toString i
  | _, _, _, some bits, _, _ => Number.numeral Number.double bits
  | _, _, _, _, some b, _ => Text.quotedBytes b
  | _, _, _, _, _, some s => s
  | _, _, _, _, _, _ => ""

/-- The integer that an option is given, if it is one. -/
def UninterpretedOption.integer? (o : UninterpretedOption) : Option Int :=
  match o.positive with
  | some n => some n
  | none => o.negative

/-- The real number that an option is given, if it is a number. -/
def UninterpretedOption.real? (o : UninterpretedOption) : Option Float :=
  match o.double with
  | some bits => some (Float.ofBits bits.toUInt64)
  | none => o.integer?.map Float.ofInt

/-- The same in single precision; integers are rounded once. -/
def UninterpretedOption.single? (o : UninterpretedOption) : Option Float32 :=
  match o.double with
  | some bits => some (Float.ofBits bits.toUInt64).toFloat32
  | none => o.integer?.map Float32.ofInt

/-- The value of an option for a primitive type or an enumeration; none if it does not fit. -/
def UninterpretedOption.atomFor (o : UninterpretedOption) (t : TypeTable) :
    ValueType → Option Atom
  | .scalar .bool =>
    match o.identifier with
    | some "true" => some (.bool true)
    | some "false" => some (.bool false)
    | _ => none
  | .scalar .int32 | .scalar .sint32 | .scalar .sfixed32 =>
    (o.integer?.filter (Number.isSigned 32)).map .int32
  | .scalar .int64 | .scalar .sint64 | .scalar .sfixed64 =>
    (o.integer?.filter (Number.isSigned 64)).map .int64
  | .scalar .uint32 | .scalar .fixed32 =>
    (o.integer?.filter (Number.isUnsigned 32)).map fun i => .uint32 i.toNat
  | .scalar .uint64 | .scalar .fixed64 =>
    (o.integer?.filter (Number.isUnsigned 64)).map fun i => .uint64 i.toNat
  | .scalar .float => o.single?.map fun x => .float x.toBits.toNat
  | .scalar .double => o.real?.map fun x => .double x.toBits.toNat
  | .scalar .string => (o.text.bind Wire.text?).map .text
  | .scalar .bytes => o.text.map .bytes
  | .enumeration name =>
    o.identifier.bind fun v => ((t.enum? name).bind (·.values.lookup v)).map .choice
  | .message _ | .group _ => none

/-- The value of an option for one element of a field. An aggregate makes a message whatever it
says, and leaves it empty. -/
def UninterpretedOption.elementFor (o : UninterpretedOption) (t : TypeTable) (type : ValueType) :
    Option OptionValue :=
  match type.message? with
  | some name => o.aggregate.map fun _ => .message name []
  | none => (o.atomFor t type).map .atom

/-- The value of a field after an option was set; `before` is the value until then. An aggregate
adds nothing to a map. -/
def UninterpretedOption.valueFor (o : UninterpretedOption) (t : TypeTable) (f : FieldEntry)
    (before : Option OptionValue) : Option OptionValue :=
  let items := (before.map (·.items)).getD []
  (o.elementFor t f.type).map fun v =>
    if t.isMap f then .map items else if f.label = .repeated then .list (items ++ [v]) else v

/-- The field that one part of an option's name selects in a message. `sofar` are the parts up to
and including this one. -/
def optionField (fs : NamedFiles) (own : TypeTable) (d : Declaration) (message : MessageEntry)
    (sofar : List OptionNamePart) (part : OptionNamePart) : Except Fault FieldEntry := do
  if part.isExtension then
    let (full, _) ← fs.resolve .extension d part.name
    match own.extension? full with
    | none => throw (.undefinedName part.name)
    | some e =>
      if e.extendee ≠ message.fullName then
        throw (.wrongExtendee full message.fullName e.extendee)
      return e.field
  else
    match message.fields.find? (·.name == part.name) with
    | some f => return f
    | none => throw (.unknownOption (optionName sofar))

/-- Sets one option at the place that the parts of its name lead to. An option without a name sets
nothing. -/
def setOption (fs : NamedFiles) (own types : TypeTable) (d : Declaration)
    (o : UninterpretedOption) :
    (sofar parts : List OptionNamePart) → MessageEntry → OptionEntries → Except Fault OptionEntries
  | _, [], _, entries => .ok entries
  | sofar, part :: rest, message, entries => do
    let here := sofar ++ [part]
    let field ← optionField fs own d message here part
    let before := entries.lookup field.number
    match rest with
    | [] =>
      if field.label ≠ .repeated ∧ entries.has field then
        throw (.repeatedOption (optionName here))
      match o.valueFor types field before with
      | none => throw (.badOptionValue (optionName here) (types.typeText field) o.valueText)
      | some v => return entries.set (message.isRival field) field v
    | _ :: _ =>
      if field.label = .repeated then
        throw (.optionWithoutFields (optionName here) (types.typeText field))
      match field.type.message?.bind types.message? with
      | none => throw (.optionWithoutFields (optionName here) (types.typeText field))
      | some inner =>
        let es ← setOption fs own types d o here rest inner ((before.map (·.entries)).getD [])
        return entries.set (message.isRival field) field (.message inner.fullName es)

/-- Options after their interpretation. -/
structure InterpretedOptions where
  /-- The fields that are set. -/
  entries : OptionEntries := []
  /-- What the options that are checked on reading come to in wire form. -/
  checked : List Wire.Field := []

/-- What the field of a number comes to in wire form: what was read if the number has no meaning,
and otherwise the value that is set. -/
def writtenFields (types : TypeTable) (message : MessageEntry) (r : OptionsRecord)
    (entries : OptionEntries) (number : Nat) : List Wire.Field :=
  match types.fieldNumbered? message number with
  | none => r.fields.filter (·.number == number)
  | some f =>
    (((entries.lookup f.number).map (·.payloads f.type)).getD []).map fun p => ⟨number, p⟩

/-- Interprets the options of a declaration. Fields that do not count as set vanish. -/
def interpretOptions (fs : NamedFiles) (own : TypeTable) (d : Declaration) (kind : OptionsKind)
    (r : OptionsRecord) : Except Fault InterpretedOptions := do
  let (types, message) := optionsMessage own kind
  match readEntries types message r.write with
  | .error _ => throw .malformed
  | .ok entries =>
    let entries := entries.filter fun e => e.1 ≠ (uninterpretedNumber : Int)
    let entries ← r.uninterpreted.foldlM (fun entries o =>
      setOption fs own types d o [] o.name message entries) entries
    let entries := entries.filter fun e =>
      (types.fieldNumbered? message e.1).any (·.isSetTo e.2)
    return ⟨entries, (Standard.checkedNumbers kind).flatMap
      (writtenFields types message r entries)⟩

/-- The options of a declaration; none are set if it carries none. -/
def declaredOptions (fs : NamedFiles) (own : TypeTable) (d : Declaration) :
    Except Fault InterpretedOptions :=
  match d.declared.options with
  | none => .ok {}
  | some (kind, r) => interpretOptions fs own d kind r

/-- Whether the options of a declaration still have the forms that are checked on reading. Those
that the files describe themselves may have others. -/
def Declaration.keepsForms (d : Declaration) (options : InterpretedOptions) : Bool :=
  match d.declared.options with
  | none => true
  | some (kind, _) => options.checked.all fun f => (Standard.check kind f).toBool

end ServiceCli.Descriptor
