import AbiBindings.CommandLine.Run

/-!
# The program

Command lines are carried out on the files of the system; the log and the errors go to the standard
error, the rest to the standard output.
-/

namespace AbiBindings

/-- What keeps the system from reaching a file.  The code of a failure has either sign. -/
def FileFault.ofSystem : IO.Error → FileFault
  | .noFileOrDirectory .. => .notFound
  | .alreadyExists .. => .alreadyExists
  | .inappropriateType _ code _ => if code = 21 ∨ code = -21 then .isDirectory else .notDirectory
  | .invalidArgument _ code _ => if code = 36 ∨ code = -36 then .nameTooLong else .invalidArgument
  | e => .other (toString e)

/-- The result of an action on what is at a path of the system. -/
def onSystem {α : Type} (path : String) (action : IO α) : IO (Except FileFault α) := do
  match pathFault? path with
  | some fault => return .error fault
  | none => return (← action.toBaseIO).mapError FileFault.ofSystem

instance : FileAccess IO where
  readText path := do
    return (← onSystem path (IO.FS.readBinFile path)).bind fun bytes =>
      match String.fromUTF8? bytes with
      | some text => .ok text
      | none => .error .notText
  writeText path text := onSystem path (IO.FS.writeFile path text)
  makeDirectories path :=
    if path.isEmpty then return .ok () else onSystem path (IO.FS.createDirAll path)
  isThere path := do
    match ← onSystem path (IO.FS.readBinFile path) with
    | .ok _ | .error .isDirectory => return .ok true
    | .error .notFound => return .ok false
    | .error fault => return .error fault
  removeDirectory path := onSystem path (IO.FS.removeDirAll path)

/-- Prints a report. -/
def CommandLine.Report.print (r : Report) : IO Unit := do
  for line in r.log.map LogEntry.text ++ r.errors do
    IO.eprintln line
  IO.print r.output

end AbiBindings

/-- Carries out the command line that the program was called with. -/
def main (args : List String) : IO UInt32 := do
  let report ← AbiBindings.CommandLine.run args
  report.print
  return report.exitCode.toUInt32
