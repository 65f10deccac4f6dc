import AbiBindings.Abi.Reader
import AbiBindings.Artifact.Path
import AbiBindings.Files.Access
import AbiBindings.Target

/-!
# Declarations of an artifact

An artifact is read, named, understood and placed, in this order; the first step that fails is the
failure of the artifact, and other artifacts are not concerned.
-/

namespace AbiBindings

/-- What is at the paths of artifacts. -/
abbrev Contents := String → Except FileFault String

/-- The text of an artifact. -/
def readArtifact (read : Contents) (path : String) : Checked String :=
  (read path).mapError fun fault => .io s!"Failed to read {path}: {fault.message}"

/-- The ABI in an artifact's text; a failure is placed in the contract. -/
def artifactAbi (name content : String) : Checked AbiDefinition :=
  Checked.within name ((AbiDefinition.parse content).mapError AbiFault.diagnostic)

/-- Where the declaration file of an artifact lies below the output directory. -/
def placeArtifact (root : List PathPart) (path : String) : Checked String := do
  let name ← contractNameOf path
  let d ← outputDirectoryOf root path
  return declarationPath d name

/-- The declaration file of an artifact. -/
def declareArtifact (t : Target) (root : List PathPart) (read : Contents) (path : String) :
    Checked GeneratedFile := do
  let content ← readArtifact read path
  let name ← contractNameOf path
  let abi ← artifactAbi name content
  let contract ← Contract.ofAbi name abi
  let d ← outputDirectoryOf root path
  t.declarationFile contract (declarationPath d name)

end AbiBindings
