import ServiceCli.Descriptor.Declaration
import ServiceCli.Descriptor.Fault
import ServiceCli.Text.Pieces

/-!
The names that a set of files defines, and what a name means at a place. Every full name has one
meaning, except that a package may be opened by many files.
-/
namespace ServiceCli.Descriptor

inductive NameKind where
  | package
  | message
  | oneof
  | field
  | enumeration
  | enumValue
  | service
  | method
  | extension
deriving Repr, DecidableEq

/-- Whether names can be looked up inside what the name names. -/
def NameKind.isScope : NameKind → Bool
  | package | message | enumeration | service => true
  | oneof | field | enumValue | method | extension => false

structure Definition where
  file : Nat
  kind : NameKind
deriving Repr, DecidableEq

/-- The full names defined so far, the latest first. -/
abbrev Names := List (String × Definition)

/-- What the name of a declaration names. A range takes no name of its own. -/
def Declared.nameKind? : Declared → Option NameKind
  | .file _ => some .package
  | .message _ => some .message
  | .extensionRange _ => none
  | .oneof _ => some .oneof
  | .field .. => some .field
  | .enumeration _ => some .enumeration
  | .enumValue .. => some .enumValue
  | .service _ => some .service
  | .method .. => some .method
  | .extension _ => some .extension

def fileName (files : List FileRecord) (i : Nat) : String :=
  ((files[i]?).bind (·.name)).getD ""

def isProto3 (files : List FileRecord) (i : Nat) : Bool :=
  (files[i]?).bind (·.dialect) == some "proto3"

/-- Whether a file is written in a known dialect. -/
def FileRecord.hasKnownDialect (r : FileRecord) : Bool :=
  match r.dialect with
  | none | some "proto2" | some "proto3" => true
  | some _ => false

/-- Adds a name that must be new, unless both meanings are packages. -/
def Names.define (names : Names) (files : List FileRecord) (file : Nat) (name : String)
    (kind : NameKind) : Except Fault Names :=
  match names.lookup name with
  | none => .ok ((name, ⟨file, kind⟩) :: names)
  | some d =>
    if d.kind = .package ∧ kind = .package then .ok names
    else if fileName files d.file = fileName files file then .error (.definedTwice name)
    else .error (.definedElsewhere name (fileName files d.file))

/-- The packages around a package and the package itself, the outermost first. -/
def packages (name : String) : List String :=
  if name = "" then []
  else
    let parts := Text.pieces (· == '.') name.toList
    (List.range parts.length).map fun i =>
      String.ofList (['.'].intercalate (parts.take (i + 1)))

/-- A field name without underscores and in lower case, the ASCII letters at least. -/
def camelCaseKey (name : String) : List Char :=
  (name.toList.filter (· != '_')).map Char.toLower

/-- The first two fields, if any, whose names differ in underscores and case only. -/
def camelCaseClash : (before : List (List Char × String)) → List FieldRecord → Except Fault Unit
  | _, [] => .ok ()
  | before, f :: fs =>
    let name := f.name.getD ""
    match before.lookup (camelCaseKey name) with
    | some first => .error (.camelCaseClash first name)
    | none => camelCaseClash (before ++ [(camelCaseKey name, name)]) fs

/-- The names after one more declaration. -/
def define (files : List FileRecord) (names : Names) (d : Declaration) : Except Fault Names := do
  match d.declared with
  | .file r =>
    if (files.take d.file).any (·.name.getD "" == r.name.getD "") then
      throw (.repeatedFile (r.name.getD ""))
    (packages (r.package.getD "")).foldlM
      (fun names name => names.define files d.file name .package) names
  | .message r =>
    let names ← names.define files d.file d.fullName .message
    if isProto3 files d.file then camelCaseClash [] r.fields
    return names
  | .enumeration r =>
    let names ← names.define files d.file d.fullName .enumeration
    match r.values with
    | [] => throw .emptyEnum
    | v :: _ =>
      if isProto3 files d.file ∧ v.number.getD 0 ≠ 0 then throw .nonzeroFirstValue
      return names
  | other =>
    match other.nameKind? with
    | none => return names
    | some kind => names.define files d.file d.fullName kind

/-- All names that the files define. -/
def definedNames (files : List FileRecord) : Except Fault Names :=
  (declarations files).foldlM (define files) []

/-- The import that an index into a file's imports selects. -/
def FileRecord.importAt? (r : FileRecord) (k : Int) : Option String :=
  if 0 ≤ k then r.dependencies[k.toNat]? else none

/-- Adds what a file imports publicly to the positions `seen`. The public imports of a file reached
in this way are followed only if it had been reached before. -/
def publicImports (files : List FileRecord) (position : String → Option Nat) :
    (fuel : Nat) → (seen : List Nat) → Nat → List Nat
  | 0, seen, _ => seen
  | fuel + 1, seen, i =>
    match files[i]? with
    | none => seen
    | some r =>
      (r.publicDependencies.filterMap fun k => (r.importAt? k).bind position).foldl
        (fun seen j => if j ∈ seen then publicImports files position fuel seen j else j :: seen)
        seen

/-- The position of the file with a name. -/
def filePosition (files : List FileRecord) (name : String) : Option Nat :=
  files.findIdx? (·.name.getD "" == name)

/-- The positions of the files that a file can see: itself, its imports, and what these import
publicly. -/
def visibleFiles (files : List FileRecord) (i : Nat) : List Nat :=
  match files[i]? with
  | none => [i]
  | some r =>
    (r.dependencies.filterMap (filePosition files)).foldl
      (fun seen j =>
        publicImports files (filePosition files) files.length
          (if j ∈ seen then seen else j :: seen) j)
      [i]

/-- What a name is expected to name. -/
inductive Wanted where
  | message
  | messageOrEnum
  | extension
deriving Repr, DecidableEq

namespace Wanted

def accepts : Wanted → NameKind → Bool
  | message, .message | messageOrEnum, .message | messageOrEnum, .enumeration
  | extension, .extension => true
  | _, _ => false

def description : Wanted → String
  | message => "a message type"
  | messageOrEnum => "a message or enum type"
  | extension => "an extension"

end Wanted

/-- What a name means where something is wanted. -/
inductive Meaning where
  | found (fullName : String) (kind : NameKind)
  | wrongKind (fullName : String)
  /-- The name is defined in a file that cannot be seen from here. -/
  | hidden (fullName : String)
  | undefined
  | shadowed (fullName : String)
deriving Repr, DecidableEq

def absoluteMeaning (names : Names) (visible : List Nat) (wanted : Wanted) (name : String) :
    Meaning :=
  match names.lookup name with
  | none => .undefined
  | some d =>
    if d.file ∉ visible then .hidden name
    else if wanted.accepts d.kind then .found name d.kind
    else .wrongKind name

/-- The scopes around a place from the innermost outwards, the last of them empty. -/
def scopesAround (scope : String) : List String :=
  let parts := Text.pieces (· == '.') scope.toList
  let inner := (List.range parts.length).map fun i =>
    String.ofList (['.'].intercalate (parts.take (parts.length - i)))
  if scope = "" then [""] else inner ++ [""]

/-- The meaning of a name in the first of `scopes` that gives it one of the wanted kind. For a
dotted name the first scope that contains its first part decides. `sofar` is the first meaning of
another kind that inner scopes give. -/
def relativeMeaning (names : Names) (visible : List Nat) (wanted : Wanted) (first name : String) :
    (sofar : Meaning) → (scopes : List String) → Meaning
  | sofar, [] => sofar
  | sofar, scope :: outer =>
    let candidate := if scope = "" then first else scope ++ "." ++ first
    if first = name then
      match absoluteMeaning names visible wanted candidate with
      | .found full kind => .found full kind
      | other =>
        relativeMeaning names visible wanted first name
          (if sofar = .undefined then other else sofar) outer
    else
      match names.lookup candidate with
      | some d =>
        if d.kind.isScope then
          let full := if scope = "" then name else scope ++ "." ++ name
          match absoluteMeaning names visible wanted full with
          | .undefined => .shadowed full
          | other => other
        else relativeMeaning names visible wanted first name sofar outer
      | none => relativeMeaning names visible wanted first name sofar outer

/-- The meaning of a name as it is written at a place. A leading dot makes it absolute. -/
def meaningAt (names : Names) (visible : List Nat) (wanted : Wanted) (scope name : String) :
    Meaning :=
  match name.toList with
  | '.' :: rest => absoluteMeaning names visible wanted (String.ofList rest)
  | cs =>
    let first := String.ofList ((Text.pieces (· == '.') cs).headD [])
    relativeMeaning names visible wanted first name .undefined (scopesAround scope)

/-- The full name and kind of what a name means; any other meaning is a fault. -/
def resolveName (names : Names) (visible : List Nat) (wanted : Wanted) (scope name : String) :
    Except Fault (String × NameKind) :=
  match meaningAt names visible wanted scope name with
  | .found full kind => .ok (full, kind)
  | .wrongKind full => .error (.wrongKind full wanted.description)
  | .hidden full => .error (.undefinedName full)
  | .undefined => .error (.undefinedName name)
  | .shadowed full => .error (.shadowedName name full)

end ServiceCli.Descriptor
