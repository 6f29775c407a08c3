import ServiceCli.Descriptor.Fault
import ServiceCli.Wire.Fault

/-!
Why a run ends without a result. A failure is reported to the caller; a crash is not, and ends the
program.
-/
namespace ServiceCli

/-- What is wrong with a part of the parameter. -/
inductive ParameterFault where
  | notAssignment (part : String)
  | unknownKey (key : String)
  | badLayout (value : String)
  | badShort (value : String)
deriving Repr, DecidableEq

def ParameterFault.message : ParameterFault → String
  | notAssignment part => s!"expected key=value, got `{part}`"
  | unknownKey key => s!"unknown parameter `{key}`"
  | badLayout value => s!"layout must be `verb` or `resource`, got `{value}`"
  | badShort value => s!"request_short must be a single letter or `none`, got `{value}`"

/-- Why a request cannot be read. -/
inductive RequestFault where
  /-- The request itself is badly written, inside the named field if there is one. -/
  | wire (field : Option String) (fault : Wire.Fault)
  | descriptors (fault : Descriptor.Fault)
  /-- No file of the request has the name of a target. -/
  | missingTarget (name : String)
deriving Repr, DecidableEq

def RequestFault.message : RequestFault → String
  | wire none fault => s!"failed to decode Protobuf message: {fault.message}"
  | wire (some field) fault =>
    s!"failed to decode Protobuf message: RawCodeGeneratorRequest.{field}: {fault.message}"
  | descriptors fault => fault.message
  | missingTarget name => s!"file descriptor not found: {name}"

/-- Why no source can be written. -/
inductive SourceFault where
  /-- Two flag schemas would get functions of one name. -/
  | sharedFunction (first second function : String)
  | missingFlags (requestType command : String)
deriving Repr, DecidableEq

def SourceFault.message : SourceFault → String
  | sharedFunction first second function =>
    s!"`{first}` and `{second}` both generate `{function}`"
  | missingFlags requestType command => s!"no flag schema for `{requestType}` used by `{command}`"

/-- A kind of field that flags cannot express. -/
inductive UnsupportedKind where
  | group (name : String)
  | repeatedMap
deriving Repr, DecidableEq

def UnsupportedKind.description : UnsupportedKind → String
  | group name => s!"group {name}"
  | repeatedMap => "repeated map"

inductive Failure where
  /-- Methods with different request types have the same resource and verb. -/
  | verbCollision (resource verb existing conflicting : String)
  /-- An option of a method is present and not a text. -/
  | malformedOption (method extension found : String)
  | unsupportedFieldKind (message field : String) (kind : UnsupportedKind)
  /-- Two fields of a message come out as the same flag. -/
  | flagCollision (message flag : String)
  /-- A request has a flag named like the one that takes the whole request. -/
  | reservedFlag (message : String)
  | duplicateCommand (name : String)
  | unknownMessage (name : String)
  | invalidParameter (fault : ParameterFault)
  | decode (fault : RequestFault)
  | codeGeneration (fault : SourceFault)
deriving Repr, DecidableEq

def Failure.message : Failure → String
  | verbCollision resource verb existing conflicting =>
    s!"verb clash: resource `{resource}`, verb `{verb}` maps to both `{existing}` and " ++
      s!"`{conflicting}`"
  | malformedOption method ext found =>
    s!"error reading option `{ext}` on method `{method}`: expected a string, found {found}"
  | unsupportedFieldKind message field kind =>
    s!"field `{field}` of `{message}` has unsupported kind `{kind.description}`"
  | flagCollision message flag => s!"flag `{flag}` is produced twice while flattening `{message}`"
  | reservedFlag message =>
    s!"request message `{message}` has a field named `request`, which is reserved"
  | duplicateCommand name =>
    s!"command `{name}` would be generated twice; " ++
      "resource and verb names must differ by more than case"
  | unknownMessage name => s!"message type not found: {name}"
  | invalidParameter fault => s!"invalid plugin parameter: {fault.message}"
  | decode fault => s!"decode error: {fault.message}"
  | codeGeneration fault => s!"code generation error: {fault.message}"

inductive Crash where
  /-- The name of a function would not be an identifier. -/
  | badIdentifier (name : String)
  /-- The entry message of a map has no field for its key or none for its value. -/
  | incompleteMapEntry (message : String)
  /-- A file is written in an unknown dialect. -/
  | unknownDialect
  /-- A file describes a standard option in another form and sets it. -/
  | foreignOption
deriving Repr, DecidableEq

/-- How a run stops early. -/
inductive Stop where
  | failure (f : Failure)
  | crash (c : Crash)
deriving Repr, DecidableEq

/-- A computation that can only fail, as a step of one that may also crash. -/
def orStop {α : Type} : Except Failure α → Except Stop α
  | .ok a => .ok a
  | .error f => .error (.failure f)

theorem orStop_eq_ok {α : Type} {x : Except Failure α} {a : α} : orStop x = .ok a ↔ x = .ok a := by
  cases x <;> simp [orStop]

/-- A computation succeeds when its first step does and the rest does with what that step gave. -/
theorem bind_eq_ok {ε α β : Type} {x : Except ε α} {f : α → Except ε β} {b : β} :
    (x >>= f) = .ok b ↔ ∃ a, x = .ok a ∧ f a = .ok b := by
  cases x with
  | error e => simp only [reduceCtorEq, false_and, exists_false, iff_false]; exact nofun
  | ok a => simp only [Except.ok.injEq, exists_eq_left']; rfl

/-- A computation ends with an error of its first step or of the rest. -/
theorem bind_eq_error {ε α β : Type} {x : Except ε α} {f : α → Except ε β} {e : ε} :
    (x >>= f) = .error e ↔ x = .error e ∨ ∃ a, x = .ok a ∧ f a = .error e := by
  cases x with
  | error e' =>
    simp only [reduceCtorEq, false_and, exists_false, or_false, Except.error.injEq]
    exact Except.error.injEq .. |>.to_iff
  | ok a => simp only [reduceCtorEq, Except.ok.injEq, exists_eq_left', false_or]; rfl

theorem map_eq_ok {ε α β : Type} {x : Except ε α} {f : α → β} {b : β} :
    x.map f = .ok b ↔ ∃ a, x = .ok a ∧ f a = b := by
  cases x <;> simp [Except.map]

end ServiceCli
