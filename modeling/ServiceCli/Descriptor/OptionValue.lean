import ServiceCli.Descriptor.Types

/-!
Values of options, and the entries of a message: the fields that have a value, by number.
-/
namespace ServiceCli.Descriptor

open Wire (Payload)

inductive OptionValue where
  | atom (a : Atom)
  | message (typeName : String) (entries : List (Int × OptionValue))
  | list (items : List OptionValue)
  | map (items : List OptionValue)

abbrev OptionEntries := List (Int × OptionValue)

namespace OptionValue

/-- How a value is named where a text was expected. -/
def describe : OptionValue → String
  | atom a => a.describe
  | message typeName _ => s!"message {typeName}"
  | list _ => "list"
  | map _ => "map"

/-- The elements of a collection. -/
def items : OptionValue → List OptionValue
  | list items | map items => items
  | atom _ | message .. => []

/-- The fields of a message that have a value. -/
def entries : OptionValue → OptionEntries
  | message _ entries => entries
  | atom _ | list _ | map _ => []

/-- The payloads that a value of a type is written in, one for each element. What a message holds is
left out. -/
def payloads (type : ValueType) : OptionValue → List Payload
  | atom a => [a.payload (match type with | .scalar s => s | _ => .int32)]
  | message .. =>
    match type with
    | .group _ => [.group []]
    | _ => [.delimited []]
  | list items => payloadsOfList type items
  | map items => items.map fun _ => .delimited []
where
  payloadsOfList (type : ValueType) : List OptionValue → List Payload
    | [] => []
    | v :: vs => v.payloads type ++ payloadsOfList type vs

end OptionValue

/-- Whether a field counts as set if it has the given value. Collections do unless they are
empty. -/
def FieldEntry.isSetTo (f : FieldEntry) : OptionValue → Bool
  | .atom a => !f.absentAs.any (·.same a)
  | .message .. => true
  | .list items | .map items => !items.isEmpty

namespace OptionEntries

/-- Whether a field is set. -/
def has (entries : OptionEntries) (f : FieldEntry) : Bool := (entries.lookup f.number).any f.isSetTo

/-- Gives a field a value, in the place of the one it had and of the other members of its oneof.
`isRival` tells the numbers of these. -/
def set (entries : OptionEntries) (isRival : Int → Bool) (f : FieldEntry) (v : OptionValue) :
    OptionEntries :=
  entries.filter (fun e => e.1 ≠ f.number && !isRival e.1) ++ [(f.number, v)]

end OptionEntries

end ServiceCli.Descriptor
