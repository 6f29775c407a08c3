import ServiceCli.Failure
import ServiceCli.Text.Blank
import ServiceCli.Text.Pieces

/-!
The settings that a parameter makes. A parameter is a list of parts `key=value` with commas between
them; white space around parts, keys and values is ignored, and of two parts with one key the last
counts.
-/
namespace ServiceCli

/-- What commands are grouped by. -/
inductive Layout where
  | verb
  | resource
deriving Repr, DecidableEq

structure Settings where
  layout : Layout := .verb
  /-- The letter of the flag that takes the whole request. -/
  requestShort : Option Char := some 'd'
  /-- Which log lines to write, instead of what the environment says. -/
  log : Option String := none
deriving Repr, DecidableEq

/-- What one part of a parameter sets. -/
inductive Setting where
  | layout (l : Layout)
  | requestShort (c : Option Char)
  | log (directive : String)
deriving Repr, DecidableEq

namespace Setting

def ofLayout (value : String) : Except ParameterFault Setting :=
  match value with
  | "verb" => .ok (.layout .verb)
  | "resource" => .ok (.layout .resource)
  | _ => .error (.badLayout value)

/-- One ASCII letter, or nothing for no letter. -/
def ofShort (value : String) : Except ParameterFault Setting :=
  if value = "" ∨ value = "none" then .ok (.requestShort none)
  else
    match value.toList with
    | [c] => if c.isAlpha then .ok (.requestShort (some c)) else .error (.badShort value)
    | _ => .error (.badShort value)

def ofKey (key value : String) : Except ParameterFault Setting :=
  match key with
  | "layout" => ofLayout value
  | "request_short" => ofShort value
  | "log" => .ok (.log value)
  | _ => .error (.unknownKey key)

def ofPart (part : List Char) : Except ParameterFault Setting :=
  match Text.cutAt (· == '=') part with
  | none => .error (.notAssignment (String.ofList part))
  | some (key, value) => ofKey (String.ofList (Text.trim key)) (String.ofList (Text.trim value))

end Setting

namespace Settings

def apply (s : Settings) : Setting → Settings
  | .layout l => { s with layout := l }
  | .requestShort c => { s with requestShort := c }
  | .log directive => { s with log := some directive }

/-- The parts of a parameter without the white space around them; empty ones do not count. -/
def parts (parameter : String) : List (List Char) :=
  ((Text.pieces (· == ',') parameter.toList).map Text.trim).filter (· ≠ [])

def ofParts (parts : List (List Char)) : Except ParameterFault Settings := do
  return (← parts.mapM Setting.ofPart).foldl apply {}

/-- The settings of a parameter. The first part that sets nothing decides the failure. -/
def ofParameter (parameter : String) : Except Failure Settings :=
  match ofParts (parts parameter) with
  | .error e => .error (.invalidParameter e)
  | .ok s => .ok s

end Settings

end ServiceCli
