import ServiceCli.Flag.Flattener

/-!
Flattening with a limit to how many message types are gone through one inside the other. It recurs
on the limit alone, and gives up where the limit does not suffice.
-/
namespace ServiceCli.Flattener

/-- A way to go through the fields of a message type while the types in the first list are
active. -/
abbrev Descent :=
  List String → String → List Field → Progress →
    Option (Except Interruption (NameMap FlagType) × Progress)

/-- What a field adds when it embeds the message type `m`, whose fields have been gone through. -/
def enclose (f : Field) (name : String) (m : MessageType) :
    Except Interruption (NameMap FlagType) × Progress →
      Except Interruption (List (String × FlagType)) × Progress
  | (.error e, p) => (.error e, p)
  | (.ok flags, p) => (.ok (nest f.name flags), p.completed name ⟨m.name, m.fullName, flags⟩)

/-- The flags that a field adds to the message `message`, with `descend` for the message types that
it makes necessary to go through. -/
def fieldFlagsBy (descend : Descent) (c : Catalog) (active : List String) (message : String)
    (f : Field) (p : Progress) :
    Option (Except Interruption (List (String × FlagType)) × Progress) :=
  match f.contribution with
  | .flag type => some (.ok [(Text.lower f.name, type)], p)
  | .nothing => some (.ok [], p)
  | .otherMap => some (.ok [], p.note (.mapSkipped message f.name))
  | .unsupported kind => some (.error ⟨.unsupportedFieldKind message f.name kind, active⟩, p)
  | .embedded name =>
    if name ∈ active then some (.ok [], p.note (.recursionSkipped message f.name name))
    else
      match p.compiled.get? name with
      | some s => some (.ok (nest f.name s.flags), p)
      | none =>
        match c.message? name with
        | none => some (.error ⟨.unknownMessage name, active⟩, p)
        | some m => (descend (name :: active) name m.fields (p.started name)).map (enclose f name m)

def flattenFieldsBy (descend : Descent) (c : Catalog) (active : List String) (message : String) :
    List Field → NameMap FlagType → Progress →
      Option (Except Interruption (NameMap FlagType) × Progress)
  | [], flags, p => some (.ok flags, p)
  | f :: fs, flags, p =>
    match fieldFlagsBy descend c active message f p with
    | none => none
    | some (.error e, p) => some (.error e, p)
    | some (.ok new, p) =>
      match addFlags flags new with
      | .error path => some (.error ⟨.flagCollision message path, active⟩, p)
      | .ok flags => flattenFieldsBy descend c active message fs flags p

/-- Goes through the fields of a message type, with at most `limit` message types one inside the
other, itself included. -/
def descentWithin (c : Catalog) : Nat → Descent
  | 0 => fun _ _ _ _ => none
  | limit + 1 => fun active message fields p =>
    flattenFieldsBy (descentWithin c limit) c active message fields .empty p

/-- What is answered when the fields of the message type `m` have been gone through. -/
def conclude (s : Flattener) (name : String) (m : MessageType) :
    Except Interruption (NameMap FlagType) × Progress → Answer
  | (.error e, p) => ⟨.error e.failure, ⟨p.compiled, e.active, p.walks⟩, p.events⟩
  | (.ok flags, p) =>
    let schema : FlagSchema := ⟨m.name, m.fullName, flags⟩
    let p := p.completed name schema
    ⟨.ok schema, ⟨p.compiled, s.inProgress.filter (· ≠ name), p.walks⟩, p.events⟩

/-- The flags of a message type, unless more than `limit` message types have to be gone through one
inside the other. -/
def flattenWithin (limit : Nat) (c : Catalog) (s : Flattener) (name : String) : Option Answer :=
  match s.compiled.get? name with
  | some schema => some ⟨.ok schema, s, []⟩
  | none =>
    match c.message? name with
    | none => some ⟨.error (.unknownMessage name), s, []⟩
    | some m =>
      let active := if name ∈ s.inProgress then s.inProgress else name :: s.inProgress
      (descentWithin c limit active name m.fields
        ((Progress.mk s.compiled s.walks []).started name)).map (conclude s name m)

end ServiceCli.Flattener
