/-!
The primitive types of protobuf fields.
-/
namespace ServiceCli

inductive Scalar where
  | double
  | float
  | int32
  | sint32
  | sfixed32
  | uint32
  | fixed32
  | int64
  | sint64
  | sfixed64
  | uint64
  | fixed64
  | bool
  | string
  | bytes
deriving Repr, DecidableEq

namespace Scalar

def name : Scalar → String
  | double => "double"
  | float => "float"
  | int32 => "int32"
  | sint32 => "sint32"
  | sfixed32 => "sfixed32"
  | uint32 => "uint32"
  | fixed32 => "fixed32"
  | int64 => "int64"
  | sint64 => "sint64"
  | sfixed64 => "sfixed64"
  | uint64 => "uint64"
  | fixed64 => "fixed64"
  | bool => "bool"
  | string => "string"
  | bytes => "bytes"

def all : List Scalar :=
  [double, float, int32, sint32, sfixed32, uint32, fixed32, int64, sint64, sfixed64, uint64,
   fixed64, bool, string, bytes]

def ofName? (s : String) : Option Scalar := all.find? (·.name == s)

/-- The number of the type in a field record. -/
def typeNumber : Scalar → Nat
  | double => 1
  | float => 2
  | int64 => 3
  | uint64 => 4
  | int32 => 5
  | fixed64 => 6
  | fixed32 => 7
  | bool => 8
  | string => 9
  | bytes => 12
  | uint32 => 13
  | sfixed32 => 15
  | sfixed64 => 16
  | sint32 => 17
  | sint64 => 18

def ofTypeNumber? (n : Int) : Option Scalar := all.find? fun s => (s.typeNumber : Int) == n

theorem mem_all (s : Scalar) : s ∈ all := by cases s <;> decide

end Scalar

end ServiceCli
