import ServiceCli.Failure

/-!
The log of a run: what happened, in order, and the lines that say so.
-/
namespace ServiceCli

/-- How much a log line matters, the most important first. -/
inductive Level where
  | error
  | warn
  | info
  | debug
  | trace
deriving Repr, DecidableEq

namespace Level

def all : List Level := [error, warn, info, debug, trace]

/-- How many levels matter at least as much. -/
def rank : Level → Nat
  | error => 1
  | warn => 2
  | info => 3
  | debug => 4
  | trace => 5

def name : Level → String
  | error => "ERROR"
  | warn => "WARN"
  | info => "INFO"
  | debug => "DEBUG"
  | trace => "TRACE"

end Level

inductive Event where
  /-- The fields of a message are about to be flattened. -/
  | flattening (message : String)
  | mapSkipped (message field : String)
  /-- A field is left out because its type is being flattened already. -/
  | recursionSkipped (message field embedded : String)
  | methodResolved (method resource verb : String)
  | methodUnresolved (method : String)
  | flagsCompiled (message : String) (count : Nat)
  | serviceUnresolved (service : String)
  | fileGenerated (file : String)
  | runFinished (walks : Nat)
  | runFailed (f : Failure)
deriving Repr, DecidableEq

namespace Event

def level : Event → Level
  | flattening _ => .trace
  | mapSkipped .. | methodResolved .. | methodUnresolved _ | flagsCompiled .. | runFinished _ =>
    .debug
  | recursionSkipped .. | serviceUnresolved _ => .warn
  | fileGenerated _ => .info
  | runFailed _ => .error

/-- The part of the program that an event belongs to, by which lines can be selected. -/
def target : Event → String
  | flattening _ | mapSkipped .. | recursionSkipped .. => "protoc_gen_cli::flags"
  | methodResolved .. | methodUnresolved _ | flagsCompiled .. | serviceUnresolved _
  | fileGenerated _ | runFinished _ => "protoc_gen_cli::generator"
  | runFailed _ => "protoc_gen_cli"

/-- Control characters that terminals act upon, by their numbers. -/
def controlEscape (c : Char) : List Char :=
  if c = '\x1b' then "\\x1b".toList
  else if c = '\x07' then "\\x07".toList
  else if c = '\x08' then "\\x08".toList
  else if c = '\x0c' then "\\x0c".toList
  else if c = '\x7f' then "\\x7f".toList
  else if 0x80 ≤ c.toNat ∧ c.toNat ≤ 0x9f then
    "\\u".toList ++ '\x7b' :: Nat.toDigits 16 c.toNat ++ ['\x7d']
  else [c]

/-- The name of a message, which is part of the text of a line and so must not disturb it. -/
def plain (name : String) : String := String.ofList (name.toList.flatMap controlEscape)

/-- What happened, in words that are the same for all events of a kind. -/
def title : Event → String
  | flattening _ => "compiling flag schema"
  | mapSkipped .. => "skipping map field"
  | recursionSkipped .. => "skipping recursive message field"
  | methodResolved .. => "resolved method"
  | methodUnresolved _ => "no resource/verb for method, skipping command"
  | flagsCompiled .. => "compiled flag schema"
  | serviceUnresolved _ => "no method resolved to a resource and verb"
  | fileGenerated _ => "generated"
  | runFinished _ => "flag schemas compiled"
  | runFailed _ => "generation failed"

/-- The message type that an event is about. -/
def subject? : Event → Option String
  | flattening message | mapSkipped message _ | recursionSkipped message .. =>
    some message
  | flagsCompiled message _ => some message
  | _ => none

/-- The fields of an event with their values as they are written. -/
def fields : Event → List (String × String)
  | flattening _ => []
  | mapSkipped _ field => [("field", field)]
  | recursionSkipped _ field embedded => [("field", field), ("embedded", embedded)]
  | methodResolved method resource verb =>
    [("method", method), ("resource", resource), ("verb", verb)]
  | methodUnresolved method => [("method", method)]
  | flagsCompiled _ count => [("flags", toString count)]
  | serviceUnresolved service => [("service", service)]
  | fileGenerated file => [("file", file), ("renderer", "\"clap\"")]
  | runFinished walks => [("walks", toString walks)]
  | runFailed f => [("error", f.message)]

/-- The names of all fields of an event. The title and the subject stand under one name. -/
def fieldNames (e : Event) : List String := "message" :: e.fields.map (·.1)

def text (e : Event) : String :=
  e.title ++ ((e.subject?.map fun name => " " ++ plain name).getD "") ++
    String.join (e.fields.map fun (name, value) => " " ++ name ++ "=" ++ value)

end Event

/-- An event, and the service during whose generation it happened. -/
structure Entry where
  service : Option String
  event : Event
deriving Repr, DecidableEq

/-- The line of an entry. The service is named only if that is asked for. -/
def Entry.line (e : Entry) (withService : Bool) : String :=
  let place := if withService then
      (e.service.map fun name => "service\x7bname=" ++ name ++ "\x7d: ").getD ""
    else ""
  e.event.level.name ++ " " ++ place ++ e.event.target ++ ": " ++ e.event.text

end ServiceCli
