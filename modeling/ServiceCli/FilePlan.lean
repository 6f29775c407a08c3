import ServiceCli.CommandTree
import ServiceCli.Flag

/-!
All that the source of one file is made from.
-/
namespace ServiceCli

structure FilePlan where
  /-- The file that declares the services. -/
  source : String
  commands : List Command := []
  /-- The flags of request types, by full name. -/
  flagsets : NameMap FlagSchema := .empty
  /-- The letter of the flag that takes the whole request. -/
  requestShort : Option Char := none

/-- The name of the flag that takes the whole request. -/
def requestFlag : String := "request"

end ServiceCli
