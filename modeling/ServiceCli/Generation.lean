import ServiceCli.CommandTree
import ServiceCli.FilePlan
import ServiceCli.Flag.Flattener
import ServiceCli.Journal.Logged
import ServiceCli.ResourceVerb

/-!
Generation of commands for all services of the target files. Flags are shared by all files of a run,
and each file with a service yields one result.
-/
namespace ServiceCli.Generation

/-- The flags known so far: those of any message that was flattened, and those of the request types
of the file at hand. -/
structure Flags where
  flattener : Flattener := {}
  sets : NameMap FlagSchema := .empty

/-- Registers the resource and verb of a method, if it has them. -/
def register (t : VerbTable) (m : Method) : Logged VerbTable := do
  match ← Logged.ofFailing (ResourceVerb.resolve m.name m.overrides.annotations) with
  | none =>
    Logged.log [.methodUnresolved m.fullName]
    return t
  | some rv =>
    Logged.log [.methodResolved m.fullName rv.resource rv.verb]
    Logged.ofFailing (t.insert rv.resource rv.verb m.inputType)

/-- Gathers the flags of the request type of a method. No flag may be named like the one that takes
the whole request. -/
def gather (c : Catalog) (flags : Flags) (m : Method) : Logged Flags := do
  if flags.sets.contains m.inputType then return flags
  let answer := flags.flattener.flatten c m.inputType
  Logged.log answer.events
  let schema ← Logged.ofFailing answer.result
  Logged.log [.flagsCompiled schema.fullName schema.size]
  if schema.flags.contains requestFlag then
    Logged.ofFailing (.error (.reservedFlag schema.fullName))
  return ⟨answer.flattener, flags.sets.insert m.inputType schema⟩

/-- Goes through methods in order. All of them have flags, also those without a command. -/
def methods (c : Catalog) : List Method → VerbTable × Flags → Logged (VerbTable × Flags)
  | [], state => return state
  | m :: ms, (t, flags) => do
    let t ← register t m
    let flags ← gather c flags m
    methods c ms (t, flags)

/-- The commands of a service. -/
def service (c : Catalog) (layout : Layout) (s : Service) (flags : Flags) :
    Logged (List Command × Flags) :=
  Logged.during s.fullName do
    let (t, flags) ← methods c s.methods (.empty, flags)
    if t.isEmpty then Logged.log [.serviceUnresolved s.fullName]
    let commands ← Logged.ofFailing (CommandTree.assemble s.name t layout)
    return (commands, flags)

/-- The commands of services, one service after the other. -/
def services (c : Catalog) (layout : Layout) :
    List Service → Flags → Logged (List Command × Flags)
  | [], flags => return ([], flags)
  | s :: ss, flags => do
    let (commands, flags) ← service c layout s flags
    let (others, flags) ← services c layout ss flags
    return (commands ++ others, flags)

/-- The plan of a file. Of the flags of earlier files only what was flattened is kept. -/
def plan (c : Catalog) (settings : Settings) (f : ServiceFile) (flattener : Flattener) :
    Logged (FilePlan × Flattener) := do
  let (commands, flags) ← services c settings.layout f.services ⟨flattener, .empty⟩
  return (⟨f.name, commands, flags.sets, settings.requestShort⟩, flags.flattener)

/-- Plans the files that have services and hands each plan to `write` before the next file is looked
at. `nameOf` is the name under which a file is written. -/
def files {α : Type} (c : Catalog) (settings : Settings) (nameOf : String → String)
    (write : FilePlan → Except Stop α) :
    List ServiceFile → Flattener → Logged (List α × Flattener)
  | [], flattener => return ([], flattener)
  | f :: fs, flattener => do
    if f.services.isEmpty then files c settings nameOf write fs flattener
    else
      let (plan, flattener) ← plan c settings f flattener
      let a ← Logged.ofExcept (write plan)
      Logged.log [.fileGenerated (nameOf f.name)]
      let (others, flattener) ← files c settings nameOf write fs flattener
      return (a :: others, flattener)

/-- The results for all target files of a catalog. -/
def run {α : Type} (nameOf : String → String) (write : FilePlan → Except Stop α) (c : Catalog)
    (settings : Settings) : Logged (List α) := do
  let (results, flattener) ← files c settings nameOf write c.files {}
  Logged.log [.runFinished flattener.walks]
  return results

end ServiceCli.Generation
