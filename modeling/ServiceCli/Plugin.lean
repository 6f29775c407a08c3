import ServiceCli.Journal.Filter
import ServiceCli.Response

/-!
One run of the program: the bytes of a request in, the bytes of a response and log lines out.
-/
namespace ServiceCli.Plugin

/-- How a run ends. -/
inductive Ending where
  | answered (stdout : Wire.Bytes) (log : List String)
  /-- The run broke down without an answer. -/
  | crashed (log : List String)
deriving Repr, DecidableEq

/-- The exit code of a run that broke down. -/
def crashCode : Nat := 101

def Ending.exitCode : Ending → Nat
  | answered .. => 0
  | crashed _ => crashCode

/-- The filter that a text asks for; warnings only if it cannot be understood or there is none. -/
def filterOf (text : Option String) : Filter := (text.bind Filter.ofText?).getD .warnings

/-- The log setting of a request, whose parameter may be all that can be read of it. -/
def logSetting (request : Wire.Bytes) : Option String :=
  match peekParameter request with
  | .error _ => none
  | .ok parameter =>
    match Settings.ofParameter parameter with
    | .error _ => none
    | .ok settings => settings.log

/-- The setting in the request goes before that of the environment. -/
def filterFor (request : Wire.Bytes) (environment : Option String) : Filter :=
  filterOf ((logSetting request).or environment)

/-- The response to a request, with an error for any failure. -/
def respond (request : Wire.Bytes) : Logged Response :=
  let generated := ofRequest request generate
  match generated.outcome with
  | .error (.failure f) =>
    ⟨generated.entries ++ [⟨none, .runFailed f⟩], .ok { error := some f.message }⟩
  | _ => generated

/-- Runs the program. -/
def run (request : Wire.Bytes) (environment : Option String) : Ending :=
  let response := respond request
  let log := (filterFor request environment).lines response.entries
  match response.outcome with
  | .ok r => .answered r.write log
  | .error _ => .crashed log

end ServiceCli.Plugin
