import ServiceCli.Settings
import ServiceCli.Text.Words
import ServiceCli.VerbTable

/-!
The commands of a service: one group for each verb or for each resource, and in it one command for
each method.
-/
namespace ServiceCli

@[ext]
structure Command where
  name : String
  /-- Another name to invoke the command by. -/
  alias? : Option String := none
  children : List Command := []
  /-- The message type whose flags the command has. -/
  requestType : Option String := none
  /-- Whether the command has the flag that takes the whole request. -/
  hasRequest : Bool := false
  /-- Whether the command does something by itself. -/
  runnable : Bool := false
deriving Repr

namespace Command

/-- The name that the command is invoked by. -/
def useName (c : Command) : String := Text.lower c.name

/-- The names that the command can be invoked by. -/
def invocations (c : Command) : List String := c.useName :: c.alias?.toList

/-- The part of the names of generated functions that stands for the command. -/
def stem (c : Command) : String := Text.snake c.name

def leaf (name key requestType : String) : Command where
  name := name
  alias? := some (Text.lower key)
  requestType := some requestType
  hasRequest := true
  runnable := true

def group (name key : String) (children : List Command) : Command where
  name := name
  alias? := some (Text.lower key)
  children := children

end Command

namespace CommandTree

/-- Parts put together, each with its first character in upper case. -/
def pascalCase (parts : List String) : String :=
  String.ofList (parts.flatMap fun part =>
    match part.toList with
    | [] => []
    | c :: cs => Text.upperChar c ++ cs)

/-- One verb of one resource. -/
structure Entry where
  resource : String
  verb : String
  requestType : String
deriving Repr, DecidableEq

/-- The verbs of one resource. -/
def rowEntries (r : ResourceEntry) : List Entry :=
  r.verbs.map fun v => ⟨r.resource, v.verb, v.requestType⟩

/-- All verbs of all resources, resource by resource. -/
def entries (t : VerbTable) : List Entry := t.resources.flatMap rowEntries

/-- What the entries of a layout are grouped by. -/
def Entry.groupKey (e : Entry) : Layout → String
  | .verb => e.verb
  | .resource => e.resource

/-- What tells apart the entries of a group. -/
def Entry.leafKey (e : Entry) : Layout → String
  | .verb => e.resource
  | .resource => e.verb

def Entry.leaf (service : String) (layout : Layout) (e : Entry) : Command :=
  .leaf (pascalCase [service, e.groupKey layout, e.leafKey layout]) (e.leafKey layout) e.requestType

/-- Puts an entry into the group with a key, which is new at the end if it is not there. -/
def place (key : String) (e : Entry) : List (String × List Entry) → List (String × List Entry)
  | [] => [(key, [e])]
  | g :: gs => if g.1 = key then (key, g.2 ++ [e]) :: gs else g :: place key e gs

/-- Entries by a key, in the order in which keys and entries come. -/
def grouped (key : Entry → String) (es : List Entry) : List (String × List Entry) :=
  es.foldl (fun gs e => place (key e) e gs) []

/-- The groups of a layout. Each row of the table is a group by resource, while a group by verb is
gathered from all rows. -/
def groups (t : VerbTable) : Layout → List (String × List Entry)
  | .resource => t.resources.map fun r => (r.resource, rowEntries r)
  | .verb => grouped (·.verb) (entries t)

/-- The commands of a service before it is checked that they differ. -/
def commands (service : String) (t : VerbTable) (layout : Layout) : List Command :=
  (groups t layout).map fun (key, es) =>
    .group (pascalCase [service, key]) key (es.map (Entry.leaf service layout))

/-- Adds the names of a command to those that its siblings before it are invoked by. -/
def addInvocations (invoked : List String) (command : String) :
    List String → Except Failure (List String)
  | [] => .ok invoked
  | name :: names =>
    if name ∈ invoked then .error (.duplicateCommand command)
    else addInvocations (name :: invoked) command names

mutual

/-- Checks one command and those below it. `stems` are those of all commands so far, `invoked` the
names that the siblings so far are invoked by; the answer is both with the command's own. -/
def checkCommand (stems invoked : List String) :
    Command → Except Failure (List String × List String)
  | ⟨name, alias?, children, requestType, hasRequest, runnable⟩ => do
    let c : Command := ⟨name, alias?, children, requestType, hasRequest, runnable⟩
    if c.stem ∈ stems then throw (.duplicateCommand name)
    let invoked ← addInvocations invoked name c.invocations
    return (← checkCommands (c.stem :: stems) [] children, invoked)

/-- Checks commands that are siblings. Every command has a function of its own in the whole tree,
and every name invokes at most one sibling. The answer is the stems of all commands so far. -/
def checkCommands (stems invoked : List String) : List Command → Except Failure (List String)
  | [] => .ok stems
  | c :: cs => do
    let (stems, invoked) ← checkCommand stems invoked c
    checkCommands stems invoked cs

end

/-- The commands of a service. -/
def assemble (service : String) (t : VerbTable) (layout : Layout) :
    Except Failure (List Command) := do
  let cs := commands service t layout
  let _ ← checkCommands [] [] cs
  return cs

end CommandTree

end ServiceCli
