import ServiceCli.Generation
import ServiceCli.Request
import ServiceCli.Source.File
import ServiceCli.Wire.Writing

/-!
The answer to a protobuf compiler: the generated files, or an error and no file.
-/
namespace ServiceCli

structure GeneratedFile where
  name : String
  content : String
deriving Repr, DecidableEq

structure Response where
  error : Option String := none
  files : List GeneratedFile := []
deriving Repr, DecidableEq

namespace Response

/-- The features that are announced: optional fields in the dialect `proto3`. -/
def supportedFeatures : Nat := 1

def writeFile (number : Nat) (f : GeneratedFile) : Wire.Bytes :=
  Wire.writeBytes number (Wire.writeText 1 f.name ++ Wire.writeText 15 f.content)

/-- The response in the wire format. -/
def write (r : Response) : Wire.Bytes :=
  Wire.writeOptional Wire.writeText 1 r.error ++ Wire.writeNatural 2 supportedFeatures ++
    Wire.writeAll writeFile 15 r.files

end Response

/-- Writes the source of a plan. -/
def generatedFile (plan : FilePlan) : Except Stop GeneratedFile := do
  return ⟨Source.fileName plan.source, ← Source.render plan⟩

/-- The plans of the files of a catalog. -/
def generatePlans (c : Catalog) (settings : Settings) : Logged (List FilePlan) :=
  Generation.run Source.fileName .ok c settings

/-- The generated files of a catalog. -/
def generate (c : Catalog) (settings : Settings) : Logged Response := do
  return { files := ← Generation.run Source.fileName generatedFile c settings }

/-- Reads a request and hands its catalog and its settings on. The catalog is made first. -/
def ofRequest {α : Type} (bytes : Wire.Bytes) (f : Catalog → Settings → Logged α) : Logged α := do
  let request ← Logged.ofExcept (Request.ofBytes bytes)
  let settings ← Logged.ofFailing (Settings.ofParameter request.parameter)
  f request.catalog settings

end ServiceCli
