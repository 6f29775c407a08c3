import ServiceCli.NameMap
import ServiceCli.Scalar

/-!
Services and message types as commands are made from them: every reference is a full name, and all
that a file says about its wire form is gone.
-/
namespace ServiceCli

/-- What a field holds; of a repeated field, what each of its elements is. -/
inductive FieldKind where
  | scalar (s : Scalar)
  | enumeration (name : String)
  | message (name : String)
  | map (key value : FieldKind)
  | group (name : String)
deriving Repr, DecidableEq

def FieldKind.isMessage : FieldKind → Bool
  | message _ | group _ => true
  | scalar _ | enumeration _ | map .. => false

structure Field where
  name : String
  kind : FieldKind
  repeated : Bool := false
deriving Repr, DecidableEq

structure MessageType where
  name : String
  fullName : String
  fields : List Field
deriving Repr, DecidableEq

/-- The resource and verb that a method's options name, each independent of the other. -/
structure Overrides where
  resource : Option String := none
  verb : Option String := none
deriving Repr, DecidableEq

structure Method where
  name : String
  fullName : String
  inputType : String
  overrides : Overrides := {}
deriving Repr, DecidableEq

structure Service where
  name : String
  fullName : String
  methods : List Method
deriving Repr, DecidableEq

structure ServiceFile where
  name : String
  services : List Service
deriving Repr, DecidableEq

/-- The files to make commands for, in the order in which they were asked for, and all message types
that are known. -/
structure Catalog where
  files : List ServiceFile := []
  messages : NameMap MessageType := .empty
deriving Repr

namespace Catalog

def message? (c : Catalog) (fullName : String) : Option MessageType := c.messages.get? fullName

/-- Adds a message type, in the place of one with the same name. -/
def insertMessage (c : Catalog) (m : MessageType) : Catalog :=
  { c with messages := c.messages.insert m.fullName m }

end Catalog

end ServiceCli
