import Connectives.Command.Help
import Connectives.Command.Run

/-!
# Connectives — the command line

Looks at what is there, has the invocation carried out, and writes down what comes of it.
-/

namespace Connectives

/-- Whether a directory stands at a path. -/
def isDirectory (path : String) : IO Bool := do
  try (← IO.FS.realPath path).isDir
  catch _ => return false

/-- The path of the directory that holds a path. -/
def parentPath (path : String) : String :=
  let upToSlash := path.toList.reverse.dropWhile (· != '/')
  if upToSlash.isEmpty then "." else String.ofList upToSlash.reverse

/-- What stands at a path. -/
def placeAt (path : String) : IO Place := do
  if path.isEmpty then return .unreachable
  if ← isDirectory path then return .directory
  try return .file (← IO.FS.readBinFile path).toList
  catch _ => return if ← isDirectory (parentPath path) then .vacant else .unreachable

/-- What there is for an invocation to work with. -/
def surroundingsOf (i : Invocation) : IO Surroundings := do
  let logPaths := i.log?.toList.flatMap fun path => [path, Surroundings.logPathIn path]
  let places ← (logPaths ++ i.task.inputPath?.toList).mapM fun path => do
    return (path, ← placeAt path)
  let input ← if i.task.readsStandardInput then (← IO.getStdin).readBinToEnd else pure .empty
  return ⟨input.toList, fun path => (places.lookup path).getD .unreachable⟩

/-- Carries out an invocation and writes down what comes of it. -/
def perform (i : Invocation) : IO UInt32 := do
  let outcome := i.run (← surroundingsOf i)
  let screen : Screen := if ← (← IO.getStdout).isTty then .usual else .plain
  IO.print (i.written screen outcome)
  if let some (path, log) := outcome.log? then
    IO.FS.writeFile path log.text
  match outcome.failure? with
  | none => return 0
  | some failure =>
    IO.eprintln ("Error: " ++ "\n  caused by: ".intercalate failure.messages)
    return 1

end Connectives

/-- Carries out a command line. -/
def main (args : List String) : IO UInt32 := do
  match Connectives.Invocation.ofWords args with
  | .ok i => Connectives.perform i
  | .error fault =>
    if fault.isRequest then
      IO.println fault.message
      return 0
    else
      IO.eprintln fault.message
      return 1
