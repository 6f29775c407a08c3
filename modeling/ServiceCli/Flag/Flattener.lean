import ServiceCli.Flag.Contribution
import ServiceCli.Journal
import ServiceCli.Text.CaseMapping

/-!
Flattening of messages. The flags of a message are those of its fields, with the flags of an
embedded message under the name of the field that embeds it. Each message type is flattened once and
then remembered, and a field whose type is being flattened already is left out.
-/
namespace ServiceCli

/-- What is remembered between flattenings. -/
structure Flattener where
  compiled : NameMap FlagSchema := .empty
  /-- The message types whose flattening has begun and not been completed. -/
  inProgress : List String := []
  /-- How many flattenings have begun. -/
  walks : Nat := 0
deriving Repr, DecidableEq

namespace Flattener

/-- What one flattening has done so far. -/
structure Progress where
  compiled : NameMap FlagSchema
  walks : Nat
  events : List Event := []
deriving Repr, DecidableEq

namespace Progress

def note (p : Progress) (e : Event) : Progress := { p with events := p.events ++ [e] }

def started (p : Progress) (name : String) : Progress :=
  { p with walks := p.walks + 1 }.note (.flattening name)

def completed (p : Progress) (name : String) (s : FlagSchema) : Progress :=
  { p with compiled := p.compiled.insert name s }

end Progress

/-- A failure, and the message types that were being flattened when it happened. -/
structure Interruption where
  failure : Failure
  active : List String
deriving Repr, DecidableEq

/-- Adds flags one by one. The first path that is there already is the error. -/
def addFlags (flags : NameMap FlagType) :
    List (String × FlagType) → Except String (NameMap FlagType)
  | [] => .ok flags
  | (path, type) :: rest =>
    if flags.contains path then .error path else addFlags (flags.insert path type) rest

/-- The flags of an embedded message, each under the name of the field. -/
def nest (field : String) (flags : NameMap FlagType) : List (String × FlagType) :=
  flags.entries.map fun (path, type) => (Text.lower (Text.lower field ++ "." ++ path), type)

/-- The message types of a catalog that are not among the active ones. -/
def remaining (c : Catalog) (active : List String) : List String :=
  c.messages.keys.filter (· ∉ active)

/-- When a further message type becomes active, fewer remain. -/
theorem remaining_cons_lt {c : Catalog} {active : List String} {name : String} {m : MessageType}
    (hactive : name ∉ active) (hm : c.message? name = some m) :
    (remaining c (name :: active)).length < (remaining c active).length := by
  have hmem : name ∈ remaining c active :=
    List.mem_filter.2 ⟨NameMap.mem_keys_of_get? hm, by simpa using hactive⟩
  have hsub : remaining c (name :: active) = (remaining c active).filter (· ≠ name) := by
    simp only [remaining, List.filter_filter]
    congr 1
    funext n
    by_cases hn : n = name <;> simp [hn]
  rw [hsub]
  exact List.length_filter_lt_length_iff_exists.2 ⟨name, hmem, by simp⟩

mutual

/-- The flags that a field adds to the message `message`. -/
def fieldFlags (c : Catalog) (active : List String) (message : String) (f : Field) (p : Progress) :
    Except Interruption (List (String × FlagType)) × Progress :=
  match f.contribution with
  | .flag type => (.ok [(Text.lower f.name, type)], p)
  | .nothing => (.ok [], p)
  | .otherMap => (.ok [], p.note (.mapSkipped message f.name))
  | .unsupported kind => (.error ⟨.unsupportedFieldKind message f.name kind, active⟩, p)
  | .embedded name =>
    if _ : name ∈ active then (.ok [], p.note (.recursionSkipped message f.name name))
    else
      match p.compiled.get? name with
      | some s => (.ok (nest f.name s.flags), p)
      | none =>
        match _ : c.message? name with
        | none => (.error ⟨.unknownMessage name, active⟩, p)
        | some m =>
          match flattenFields c (name :: active) name m.fields .empty (p.started name) with
          | (.error e, p) => (.error e, p)
          | (.ok flags, p) =>
            (.ok (nest f.name flags), p.completed name ⟨m.name, m.fullName, flags⟩)
termination_by ((remaining c active).length, 0)
decreasing_by exact Prod.Lex.left _ _ (remaining_cons_lt ‹_ ∉ _› ‹_ = some _›)

/-- Adds the flags of the fields of the message `message` to those it has already. -/
def flattenFields (c : Catalog) (active : List String) (message : String) (fields : List Field)
    (flags : NameMap FlagType) (p : Progress) :
    Except Interruption (NameMap FlagType) × Progress :=
  match fields with
  | [] => (.ok flags, p)
  | f :: fs =>
    match fieldFlags c active message f p with
    | (.error e, p) => (.error e, p)
    | (.ok new, p) =>
      match addFlags flags new with
      | .error path => (.error ⟨.flagCollision message path, active⟩, p)
      | .ok flags => flattenFields c active message fs flags p
termination_by ((remaining c active).length, fields.length)

end

/-- What a flattening answers, what is remembered after it, and what happened. -/
structure Answer where
  result : Except Failure FlagSchema
  flattener : Flattener
  events : List Event

/-- The flags of a message type. After a failure the types that were being flattened stay marked. -/
def flatten (c : Catalog) (s : Flattener) (name : String) : Answer :=
  match s.compiled.get? name with
  | some schema => ⟨.ok schema, s, []⟩
  | none =>
    match c.message? name with
    | none => ⟨.error (.unknownMessage name), s, []⟩
    | some m =>
      let active := if name ∈ s.inProgress then s.inProgress else name :: s.inProgress
      match flattenFields c active name m.fields .empty
          ((Progress.mk s.compiled s.walks []).started name) with
      | (.error e, p) => ⟨.error e.failure, ⟨p.compiled, e.active, p.walks⟩, p.events⟩
      | (.ok flags, p) =>
        let schema : FlagSchema := ⟨m.name, m.fullName, flags⟩
        let p := p.completed name schema
        ⟨.ok schema, ⟨p.compiled, s.inProgress.filter (· ≠ name), p.walks⟩, p.events⟩

end Flattener

end ServiceCli
