-- What the surroundings answer: files, programs on the search path, and children.
import AppVersions.Child
import AppVersions.Request

namespace AppVersions

/-- Why no program was found. -/
inductive LookupFailure
  | noSearchPath
  | notFound
  deriving DecidableEq, Repr

def LookupFailure.message : LookupFailure → String
  | .noSearchPath => "no path to search and provided name is not an absolute path"
  | .notFound => "cannot find binary path"

/-- The surroundings as functions; links are followed throughout. `timing` is when a process ran,
and `invocation` a name that no other run has. -/
structure Host where
  isDirectory : Path → Bool
  isFile : Path → Bool
  readFile : Path → Except IoError (List UInt8)
  findProgram : String → Except LookupFailure Path
  canonical? : Path → Option Path
  launch : SpawnRequest → Except IoError Child
  currentDirectory : Option Path
  os : String
  timing : Timing
  invocation : String

/-- The text of a file, which has to be UTF-8. -/
def Host.readText (host : Host) (p : Path) : Except IoError String := do
  match Text.Utf8.text? (← host.readFile p) with
  | some s => return s
  | none => throw (.custom .invalidData (some "stream did not contain valid UTF-8"))

end AppVersions
