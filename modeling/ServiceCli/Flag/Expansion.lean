import ServiceCli.Catalog
import ServiceCli.Failure
import ServiceCli.Flag
import ServiceCli.Text.CaseMapping

/-!
Flags of messages by plain recursion. Nothing is remembered and nothing is marked, so a message type
that contains itself has flags only if the fields that lead back to it are left out.
-/
namespace ServiceCli

/-- A computation that may fail; `none` is one that never ends. -/
abbrev Expansion := ExceptT Failure Option

namespace Expansion

/-- The first path that is there already or that comes twice. -/
def firstRepeated (seen : List String) : List String → Option String
  | [] => none
  | path :: rest => if path ∈ seen then some path else firstRepeated (seen ++ [path]) rest

end Expansion

namespace Catalog

mutual

/-- The flags of a message type. `skip` tells, by the containing and the embedded type, which fields
are left out. -/
def expandMessage (c : Catalog) (skip : String → String → Bool) (name : String) :
    Expansion FlagSchema :=
  match c.message? name with
  | none => throw (.unknownMessage name)
  | some m => do return ⟨m.name, m.fullName, .ofList (← c |>.expandFields skip name [] m.fields)⟩
partial_fixpoint

/-- The flags of a message type by its fields, after those of earlier fields. -/
def expandFields (c : Catalog) (skip : String → String → Bool) (container : String)
    (sofar : List (String × FlagType)) (fs : List Field) : Expansion (List (String × FlagType)) :=
  match fs with
  | [] => return sofar
  | f :: fs => do
    let new ← c |>.expandField skip container f
    match Expansion.firstRepeated (sofar.map (·.1)) (new.map (·.1)) with
    | some path => throw (.flagCollision container path)
    | none => c |>.expandFields skip container (sofar ++ new) fs
partial_fixpoint

/-- The flags that one field gives to the message type `container`. -/
def expandField (c : Catalog) (skip : String → String → Bool) (container : String)
    (f : Field) : Expansion (List (String × FlagType)) :=
  match f.repeated, f.kind with
  | true, .scalar s => return [(Text.lower f.name, ⟨.ofScalar s, true⟩)]
  | true, .enumeration _ => return [(Text.lower f.name, ⟨.string, true⟩)]
  | true, .message _ => return []
  | true, .map .. => throw (.unsupportedFieldKind container f.name .repeatedMap)
  | false, .scalar s => return [(Text.lower f.name, ⟨.ofScalar s, false⟩)]
  | false, .enumeration _ => return [(Text.lower f.name, ⟨.string, false⟩)]
  | false, .map key value =>
    if key = .scalar .string ∧ !value.isMessage then
      return [(Text.lower f.name, ⟨.stringMap, false⟩)]
    else return []
  | false, .message name =>
    if skip container name then return []
    else do
      let s ← c |>.expandMessage skip name
      return s.flags.entries.map fun (path, type) =>
        (Text.lower (Text.lower f.name ++ "." ++ path), type)
  | _, .group name => throw (.unsupportedFieldKind container f.name (.group name))
partial_fixpoint

end

/-- The flags of a message type with no field left out. -/
def expansion (c : Catalog) (name : String) : Option (Except Failure FlagSchema) :=
  (c.expandMessage (fun _ _ => false) name).run

end Catalog

end ServiceCli
