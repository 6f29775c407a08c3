import ServiceCli.Catalog
import ServiceCli.Descriptor.Pool
import ServiceCli.Failure

/-!
The catalog of a pool of descriptors, for a list of target files. Map entries become maps and vanish
as messages, and the options of methods become overrides.
-/
namespace ServiceCli.Catalog

open Descriptor (Pool TypeTable ValueType FieldEntry MessageEntry ExtensionEntry MethodEntry
  ServiceEntry FileEntry OptionValue)

/-- The options that name the resource and the verb of a method. -/
def resourceExtension : String := "cli.resource"

def verbExtension : String := "cli.verb"

/-- The kind of a field that is not a map. -/
def kindOf : ValueType → FieldKind
  | .scalar s => .scalar s
  | .enumeration name => .enumeration name
  | .message name => .message name
  | .group name => .group name

/-- The kind of a map with the given entry message: its key is the first field and its value the
second. -/
def mapKind (types : TypeTable) (entryName : String) : Except Stop FieldKind :=
  match types.message? entryName with
  | none => .error (.crash (.incompleteMapEntry entryName))
  | some entry =>
    match entry.fields.find? (·.number == 1), entry.fields.find? (·.number == 2) with
    | some key, some value => .ok (.map (kindOf key.type) (kindOf value.type))
    | _, _ => .error (.crash (.incompleteMapEntry entryName))

/-- A field of a message type. The elements of a map are not counted as repeated. -/
def fieldOf (types : TypeTable) (f : FieldEntry) : Except Stop Field := do
  if types.isMap f then
    return { name := f.name, kind := ← mapKind types (f.type.message?.getD "") }
  else
    return { name := f.name, kind := kindOf f.type, repeated := f.label = .repeated }

/-- The fields of a message in the order of their numbers. -/
def byNumber (fields : List FieldEntry) : List FieldEntry :=
  fields.mergeSort (·.number ≤ ·.number)

def messageOf (types : TypeTable) (m : MessageEntry) : Except Stop MessageType := do
  return ⟨m.name, m.fullName, ← (byNumber m.fields).mapM (fieldOf types)⟩

/-- All messages of the pool except the entries of maps. -/
def messagesOf (types : TypeTable) : Except Stop (NameMap MessageType) := do
  let ms ← (types.messages.filter fun m => !m.isMapEntry).mapM (messageOf types)
  return .ofList (ms.map fun m => (m.fullName, m))

/-- The text that a method's options hold for an extension. The option is looked up by its number
alone, and one that is set must be a text. -/
def optionText (method : MethodEntry) : Option ExtensionEntry → Except Failure (Option String)
  | none => .ok none
  | some ext =>
    match method.options.lookup ext.field.number with
    | none => .ok none
    | some (.atom (.text s)) => .ok (some s)
    | some v => .error (.malformedOption method.fullName ext.fullName v.describe)

def methodOf (types : TypeTable) (m : MethodEntry) : Except Failure Method := do
  let resource ← optionText m (types.extension? resourceExtension)
  let verb ← optionText m (types.extension? verbExtension)
  return ⟨m.name, m.fullName, m.input, ⟨resource, verb⟩⟩

def serviceOf (types : TypeTable) (s : ServiceEntry) : Except Failure Service := do
  return ⟨s.name, s.fullName, ← s.methods.mapM (methodOf types)⟩

def fileOf (types : TypeTable) (f : FileEntry) : Except Failure ServiceFile := do
  return ⟨f.name, ← f.services.mapM (serviceOf types)⟩

def targetOf (pool : Pool) (name : String) : Except Failure ServiceFile :=
  match pool.file? name with
  | none => .error (.decode (.missingTarget name))
  | some f => fileOf pool.types f

/-- The catalog of a pool. The first target that cannot be had decides the failure. -/
def ofPool (pool : Pool) (targets : List String) : Except Stop Catalog := do
  let messages ← messagesOf pool.types
  let files ← orStop (targets.mapM (targetOf pool))
  return { files, messages }

end ServiceCli.Catalog
