import ServiceCli.FilePlan
import ServiceCli.Source.Item
import ServiceCli.Text.Identifier

/-!
The generated file of a plan: one function for each command, after those of the commands below it,
the parsers that flags need, and one function for each set of flags.
-/
namespace ServiceCli.Source

/-- The path of the generated file. -/
def fileName (source : String) : String :=
  let cs := source.toList
  let ending := ".proto".toList
  let stem := if ending.isSuffixOf cs then cs.take (cs.length - ending.length) else cs
  String.ofList stem ++ ".cli.rs"

/-- The name of the function of a command. -/
def commandFunction (c : Command) : String := c.stem ++ "_command"

/-- The short name of a set of flags. -/
def shortStem (s : FlagSchema) : String := Text.snake s.name

/-- A set of flags goes by its short name unless another one among `all` has the same. -/
def flagsStem (all : List FlagSchema) (fullName : String) (s : FlagSchema) : String :=
  if 1 < (all.filter fun other => shortStem other = shortStem s).length then Text.snake fullName
  else shortStem s

/-- The names of the functions of sets of flags, by full name, whether or not they differ. -/
def flagsFunctionNames (sets : NameMap FlagSchema) : List (String × String) :=
  sets.entries.map fun (fullName, s) => (fullName, flagsStem sets.values fullName s ++ "_flags")

/-- The first entry whose function has the name of an earlier one is an error. -/
def checkDistinct : (before : List (String × String)) → List (String × String) →
    Except SourceFault Unit
  | _, [] => .ok ()
  | before, (fullName, function) :: rest =>
    match before.find? (·.2 == function) with
    | some other => .error (.sharedFunction other.1 fullName function)
    | none => checkDistinct ((fullName, function) :: before) rest

def flagsFunctions (sets : NameMap FlagSchema) : Except SourceFault (List (String × String)) := do
  let names := flagsFunctionNames sets
  checkDistinct [] names
  return names

/-- A name that is used as an identifier. -/
def identifier (name : String) : Except Stop String :=
  if Text.isIdentifier name then .ok name else .error (.crash (.badIdentifier name))

/-- The flag that takes the whole request. -/
def requestArgument (short : Option Char) : Expr :=
  (Expr.call (.verbatim "::clap::Arg::new") [.ofText requestFlag]).methods
    (((short.map fun c => ("short", [Expr.ofChar c])).toList) ++
      [("long", [.ofText requestFlag]), ("help", [.ofText "request object in json format"])])

/-- What is asked of a new command: another name, commands below it, the request flag. A command
that only has others below it asks for one of them. -/
def commandCalls (short : Option Char) (c : Command) : List (String × List Expr) :=
  (c.alias?.map fun a => ("alias", [Expr.ofText a])).toList ++
    (if !c.runnable && !c.children.isEmpty then
      [("subcommand_required", [.ofBool true]), ("arg_required_else_help", [.ofBool true])]
    else []) ++
    (c.children.map fun child => ("subcommand", [.call (.ident (commandFunction child)) []])) ++
    (if c.hasRequest then [("arg", [requestArgument short])] else [])

/-- The function of a command. `flags` is the function of its flags. -/
def commandItem (short : Option Char) (c : Command) (flags : Option String) : Function where
  name := commandFunction c
  start := some <|
    (Expr.call (.verbatim "::clap::Command::new") [.ofText c.useName]).methods
      (commandCalls short c)
  result :=
    match flags with
    | none => .ident commandVariable
    | some f => .call (.ident f) [.ident commandVariable]

/-- The function of the flags of a command, if it has flags. -/
def commandFlags (functions : List (String × String)) (c : Command) :
    Except Stop (Option String) := do
  match c.requestType with
  | none => return none
  | some t =>
    match functions.lookup t with
    | none => throw (.failure (.codeGeneration (.missingFlags t c.name)))
    | some f => return some (← identifier f)

mutual

/-- The items of a command, those of the commands below it first. -/
def commandItems (functions : List (String × String)) (short : Option Char) :
    Command → Except Stop (List Item)
  | ⟨name, alias?, children, requestType, hasRequest, runnable⟩ => do
    let c : Command := ⟨name, alias?, children, requestType, hasRequest, runnable⟩
    let below ← commandsItems functions short children
    let _ ← identifier (commandFunction c)
    let flags ← commandFlags functions c
    return below ++ [.function (commandItem short c flags)]

def commandsItems (functions : List (String × String)) (short : Option Char) :
    List Command → Except Stop (List Item)
  | [] => .ok []
  | c :: cs => do
    let first ← commandItems functions short c
    return first ++ (← commandsItems functions short cs)

end

def valueType : FlagKind → String
  | .bool => "bool"
  | .int32 => "i32"
  | .int64 => "i64"
  | .uint32 => "u32"
  | .uint64 => "u64"
  | .float32 => "f32"
  | .float64 => "f64"
  | .bytes | .string | .stringMap => "String"

/-- What happens when a flag is given: it switches something on, is added to the values that came
before, or takes their place. -/
def action (t : FlagType) : Expr :=
  .verbatim <|
    if t.slice || t.kind = .stringMap then "::clap::ArgAction::Append"
    else if t.kind = .bool then "::clap::ArgAction::SetTrue"
    else "::clap::ArgAction::Set"

/-- How the values of a flag are parsed and what they are called. A switch has none. -/
def parserCalls (t : FlagType) : List (String × List Expr) :=
  let valueName := ("value_name", [Expr.ofText (Text.upper t.registration)])
  match t.kind with
  | .stringMap =>
    [("value_parser", [.ident keyValueParserName]), ("value_name", [.ofText "KEY=VALUE"])]
  | .bytes => [("value_parser", [.ident base64ParserName]), valueName]
  | .bool =>
    if t.slice then [("value_parser", [.valueParser (valueType t.kind)]), valueName] else []
  | _ => [("value_parser", [.valueParser (valueType t.kind)]), valueName]

def flagArgument (path : String) (t : FlagType) : Expr :=
  (Expr.call (.verbatim "::clap::Arg::new") [.ofText path]).methods
    ([("long", [.ofText path]), ("action", [action t])] ++ parserCalls t ++
      (t.default.literal?.map fun value => ("default_value", [Expr.ofText value])).toList)

/-- The function that adds the flags of a set to a command. -/
def flagsItem (function : String) (s : FlagSchema) : Function where
  name := function
  doc := some s!" Registers the flags that populate `{s.fullName}`."
  takesCommand := true
  result :=
    (Expr.ident commandVariable).methods
      (s.flags.entries.map fun (path, t) => ("arg", [flagArgument path t]))

/-- The items of sets of flags, each with the name of its function. -/
def flagsItems : List (FlagSchema × String) → Except Stop (List Item)
  | [] => .ok []
  | (s, function) :: rest => do
    let function ← identifier function
    return .function (flagsItem function s) :: (← flagsItems rest)

/-- Whether some flag of some set takes values of a kind. -/
def usesKind (sets : NameMap FlagSchema) (kind : FlagKind) : Bool :=
  sets.values.any fun s => s.types.any (·.kind = kind)

/-- The items of the file of a plan. -/
def items (plan : FilePlan) : Except Stop (List Item) := do
  match flagsFunctions plan.flagsets with
  | .error e => throw (.failure (.codeGeneration e))
  | .ok functions =>
    let commands ← commandsItems functions plan.requestShort plan.commands
    let flags ← flagsItems (plan.flagsets.values.zip (functions.map (·.2)))
    return commands ++
      (if usesKind plan.flagsets .stringMap then [.keyValueParser] else []) ++
      (if usesKind plan.flagsets .bytes then [.base64Parser] else []) ++ flags

/-- The comment at the top of the file. -/
def header (source : String) : String :=
  s!"// @generated by protoc-gen-cli. DO NOT EDIT.\n// source: {source}\n\n"

/-- The text of the file of a plan. -/
def render (plan : FilePlan) : Except Stop String := do
  return header plan.source ++ String.join ((← items plan).map Item.text)

end ServiceCli.Source
