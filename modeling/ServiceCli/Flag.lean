import ServiceCli.NameMap
import ServiceCli.Scalar

/-!
Command-line flags: the values they take, how they are registered, and what they default to.
-/
namespace ServiceCli

/-- What values a flag takes. -/
inductive FlagKind where
  | bool
  | int32
  | int64
  | uint32
  | uint64
  | float32
  | float64
  | bytes
  | string
  | stringMap
deriving Repr, DecidableEq

namespace FlagKind

/-- The flag kind of a primitive type. How a number is encoded makes no difference. -/
def ofScalar : Scalar → FlagKind
  | .float => float32
  | .double => float64
  | .int32 | .sint32 | .sfixed32 => int32
  | .uint32 | .fixed32 => uint32
  | .int64 | .sint64 | .sfixed64 => int64
  | .uint64 | .fixed64 => uint64
  | .bytes => bytes
  | .string => string
  | .bool => bool

def registration : FlagKind → String
  | bool => "bool"
  | int32 => "int32"
  | int64 => "int64"
  | uint32 => "uint32"
  | uint64 => "uint64"
  | float32 => "float32"
  | float64 => "float64"
  | bytes => "bytes_base64"
  | string => "string"
  | stringMap => "string_to_string"

end FlagKind

inductive FlagDefault where
  | false
  | zero
  | emptyString
  | emptyBytes
  | emptyMap
  | emptySlice
deriving Repr, DecidableEq

namespace FlagDefault

/-- The default as a single value; empty collections have none. -/
def literal? : FlagDefault → Option String
  | false => some "false"
  | zero => some "0"
  | emptyString => some ""
  | emptyBytes | emptyMap | emptySlice => none

def text : FlagDefault → String
  | false => "false"
  | zero => "0"
  | emptyString => "\"\""
  | emptyBytes | emptySlice => "[]"
  | emptyMap => "\x7b\x7d"

end FlagDefault

/-- A slice collects several values. -/
structure FlagType where
  kind : FlagKind
  slice : Bool := false
deriving Repr, DecidableEq

namespace FlagType

/-- The name of a flag type. Bytes and maps are registered alike whether or not they are slices. -/
def registration (t : FlagType) : String :=
  match t.kind with
  | .bytes | .stringMap => t.kind.registration
  | kind => if t.slice then kind.registration ++ "_slice" else kind.registration

def default (t : FlagType) : FlagDefault :=
  if t.kind = .stringMap then .emptyMap
  else if t.slice then .emptySlice
  else
    match t.kind with
    | .bool => .false
    | .int32 | .int64 | .uint32 | .uint64 | .float32 | .float64 => .zero
    | .bytes => .emptyBytes
    | .string => .emptyString
    | .stringMap => .emptyMap

end FlagType

/-- The flags of a message type by path. -/
structure FlagSchema where
  name : String
  fullName : String
  flags : NameMap FlagType
deriving Repr, DecidableEq

namespace FlagSchema

def size (s : FlagSchema) : Nat := s.flags.size

/-- The types of all flags, in the order of their paths. -/
def types (s : FlagSchema) : List FlagType := s.flags.values

end FlagSchema

end ServiceCli
