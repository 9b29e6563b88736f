import FreeOrder.CommandLine.Outcome

namespace FreeOrder.CommandLine

/-- Reads the file at the path, or the folder there with all that lies below it. -/
partial def readTree (path : String) : IO FileTree := do
  let place := (← IO.currentDir) / path
  if ← place.isDir then
    let entries ← place.readDir
    let trees ← entries.toList.mapM fun entry =>
      return (entry.fileName, ← readTree entry.path.toString)
    return .folder trees
  else
    return .file (← IO.FS.readBinFile place)

/-- Looks the path up, and says why if there is nothing to read there. -/
def lookUp (path : String) : IO (Except ReadFailure FileTree) := do
  if path.isEmpty then
    return .error .notFound
  try
    return .ok (← readTree path)
  catch
    | .inappropriateType .. => return .error .notFolder
    | .invalidArgument .. => return .error .nameTooLong
    | _ => return .error .notFound

def complaint : Toml.Complaint := fun _ =>
  "not a document with the settings that are asked for"

/-- Carries out a command line without the name of the program, and gives its exit code. -/
def carryOut (words : List String) : IO UInt32 := do
  match Request.ofWords (insertRun words) with
  | .error stop =>
    if stop.isFailure then IO.eprint stop.text else IO.print stop.text
    return stop.exitCode.toUInt32
  | .ok request =>
    let found ← request.paths.mapM fun path => return (path, ← lookUp path)
    let outcome := request.fulfil {
      find := fun path => (found.lookup path).getD (.error .notFound)
      ofRegistry := complaint
      ofFixture := complaint }
    IO.print outcome.output
    for message in outcome.messages do
      IO.eprintln message
    return outcome.exitCode.toUInt32

end FreeOrder.CommandLine

def main (words : List String) : IO UInt32 :=
  FreeOrder.CommandLine.carryOut words
