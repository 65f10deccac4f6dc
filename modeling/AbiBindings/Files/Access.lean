/-!
# Access to files

What a run asks of the place where files are, and what may go wrong there.  Paths are UTF-8 texts: a
place may hold files whose names are no texts, but no path leads to them.
-/

namespace AbiBindings

/-- Why a file cannot be reached. -/
inductive FileFault where
  | notFound
  | isDirectory
  | notDirectory
  | alreadyExists
  | invalidArgument
  | nameTooLong
  /-- The path holds a character that no path can. -/
  | notPath
  /-- The file holds no text. -/
  | notText
  | other (text : String)
  deriving DecidableEq

def FileFault.message : FileFault → String
  | .notFound => "No such file or directory (os error 2)"
  | .isDirectory => "Is a directory (os error 21)"
  | .notDirectory => "Not a directory (os error 20)"
  | .alreadyExists => "File exists (os error 17)"
  | .invalidArgument => "Invalid argument (os error 22)"
  | .nameTooLong => "File name too long (os error 36)"
  | .notPath => "file name contained an unexpected NUL byte"
  | .notText => "stream did not contain valid UTF-8"
  | .other text => text

/-- A place with files, which actions of `m` read and change. -/
class FileAccess (m : Type → Type) where
  readText : String → m (Except FileFault String)
  writeText : String → String → m (Except FileFault Unit)
  /-- Makes a directory and those around it, unless they are there. -/
  makeDirectories : String → m (Except FileFault Unit)
  /-- Something is at a path. -/
  isThere : String → m (Except FileFault Bool)
  /-- Removes a directory and all that is in it. -/
  removeDirectory : String → m (Except FileFault Unit)

end AbiBindings
