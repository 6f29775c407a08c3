import ServiceCli.Catalog
import ServiceCli.Failure
import ServiceCli.Flag

/-!
What each field of a message means for the flags of the message, before any other message is looked
at.
-/
namespace ServiceCli

/-- What a field adds to the flags of its message. -/
inductive Contribution where
  | flag (type : FlagType)
  | nothing
  /-- A map that no flag can express adds nothing either. -/
  | otherMap
  /-- The flags of another message, under the name of the field. -/
  | embedded (message : String)
  | unsupported (kind : UnsupportedKind)
deriving Repr, DecidableEq

/-- Enumerations are given by the names of their values, maps only if both sides are simple enough,
and repeated messages not at all. -/
def Field.contribution (f : Field) : Contribution :=
  if f.repeated then
    match f.kind with
    | .scalar s => .flag ⟨.ofScalar s, true⟩
    | .enumeration _ => .flag ⟨.string, true⟩
    | .message _ => .nothing
    | .map .. => .unsupported .repeatedMap
    | .group name => .unsupported (.group name)
  else
    match f.kind with
    | .scalar s => .flag ⟨.ofScalar s, false⟩
    | .enumeration _ => .flag ⟨.string, false⟩
    | .message name => .embedded name
    | .map key value =>
      if key = .scalar .string ∧ !value.isMessage then .flag ⟨.stringMap, false⟩ else .otherMap
    | .group name => .unsupported (.group name)

end ServiceCli
