import Connectives.Command.Failure
import Connectives.Log.Basic

/-!
# Connectives — what the command finds around it

The command reads bytes from its standard input or from a file, and may create a file for its log.
`Surroundings` says what there is before it starts: the bytes on the standard input, and what stands
at each path. No two paths are taken to lead to the same place, not by another spelling and not by a
link, so what a log does to the input is told by the two paths alone.
-/

namespace Connectives

/-- What stands at a path. -/
inductive Place where
  | file (bytes : List UInt8)
  | directory
  /-- Nothing, but a file can be created. -/
  | vacant
  /-- Nothing, and no file can be created, for there is no directory to hold it. -/
  | unreachable
  deriving DecidableEq, Repr

/-- What there is before the command starts. No two paths lead to the same place. -/
structure Surroundings where
  standardInput : List UInt8
  place : String → Place

namespace Surroundings

/-- The text of the input: of a file, if one is named, and of the standard input otherwise. -/
def inputText (s : Surroundings) : Option String → Except Failure String
  | none => (Text.decodeUtf8 s.standardInput).mapError .standardInputNotText
  | some path =>
    match s.place path with
    | .file bytes => (Text.decodeUtf8 bytes).mapError fun _ => .inputNotText
    | .directory => .error (.inputNotReadable .isDirectory)
    | .vacant | .unreachable => .error (.inputNotFound .notFound)

/-- The formulas of the input. -/
def formulas (s : Surroundings) (input? : Option String) : Except Failure (List Formula) := do
  (Listing.parse (← s.inputText input?)).mapError .notAListing

/-- The path under which the log goes in a directory. -/
def logPathIn (directory : String) : String :=
  (if directory.toList.getLast? = some '/' then directory else directory ++ "/") ++ defaultLogName

/-- The path of the log. In a directory it goes under its usual name. -/
def logPath (s : Surroundings) (path : String) : String :=
  match s.place path with
  | .directory => logPathIn path
  | _ => path

/-- Creates an empty file at a path, in place of any that was there. -/
def create (s : Surroundings) (path : String) : Except FileError Surroundings :=
  match s.place path with
  | .directory => .error .isDirectory
  | .unreachable => .error .notFound
  | .file _ | .vacant => .ok { s with place := fun p => if p = path then .file [] else s.place p }

end Surroundings

end Connectives
