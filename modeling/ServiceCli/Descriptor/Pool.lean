import ServiceCli.Descriptor.Options

/-!
A set of files with everything in them resolved: what a generator asks about.
-/
namespace ServiceCli.Descriptor

structure MethodEntry where
  name : String
  fullName : String
  input : String
  options : OptionEntries

structure ServiceEntry where
  name : String
  fullName : String
  methods : List MethodEntry

structure FileEntry where
  name : String
  services : List ServiceEntry

structure Pool where
  files : List FileEntry
  types : TypeTable
  /-- Whether all options have, after their interpretation, the forms of the standard ones. -/
  keepsForms : Bool

namespace Pool

def file? (p : Pool) (name : String) : Option FileEntry := p.files.find? (·.name == name)

/-- A declaration with the outcome of its resolution and its options. -/
structure Resolved where
  declaration : Declaration
  link : Link
  options : InterpretedOptions

/-- The methods of a service. -/
def methodsOf (rs : List Resolved) (service : Declaration) : List MethodEntry :=
  rs.filterMap fun r =>
    match r.declaration.declared, r.link with
    | .method record serviceName, .method input _ =>
      if r.declaration.file = service.file ∧ serviceName = service.fullName then
        some ⟨record.name.getD "", r.declaration.fullName, input, r.options.entries⟩
      else none
    | _, _ => none

/-- The services of the file at a position. -/
def servicesOf (rs : List Resolved) (file : Nat) : List ServiceEntry :=
  rs.filterMap fun r =>
    match r.declaration.declared with
    | .service record =>
      if r.declaration.file = file then
        some ⟨record.name.getD "", r.declaration.fullName, methodsOf rs r.declaration⟩
      else none
    | _ => none

/-- The types, with the messages that are marked as the entries of maps after their options have
been interpreted. -/
def typesOf (rs : List Resolved) (types : TypeTable) : TypeTable :=
  { types with
    messages := types.messages.map fun m =>
      { m with
        isMapEntry := rs.any fun r =>
          match r.declaration.declared with
          | .message _ =>
            r.declaration.fullName == m.fullName && flagIn r.options.checked mapEntryNumber
          | _ => false } }

/-- Builds the pool of a set of files: first all names are defined, then all references resolved,
then all options interpreted. The first fault of the first step that has one is the answer. -/
def ofFiles (files : List FileRecord) : Except Fault Pool := do
  let names ← definedNames files
  let ds := declarations files
  let fs : NamedFiles := ⟨files, names, ds⟩
  let links ← ds.mapM (link fs)
  let types := TypeTable.ofLinks links
  let options ← ds.mapM (declaredOptions fs types)
  let rs := (ds.zip (links.zip options)).map fun (d, l, o) => ⟨d, l, o⟩
  return ⟨files.zipIdx.map fun (f, i) => ⟨f.name.getD "", servicesOf rs i⟩, typesOf rs types,
    rs.all fun r => r.declaration.keepsForms r.options⟩

end Pool

end ServiceCli.Descriptor
