-- The command line of the program. It looks at the files that a run may need, lets the program run
-- on a machine with just these, and writes what the program printed.
import AppVersions.Machine.Launch
import AppVersions.Program
import Std.Time.DateTime.Timestamp

namespace AppVersions.Main

open Machine (FileTree)

/-! ## Files -/

/-- The paths that a run may look at. -/
def paths (i : CommandLine.Invocation) (searchPath : Option String) : List Path :=
  let found := (Machine.searchPath (searchPath.getD "")).map fun d => d.join ⟨"gcloud"⟩
  let sdk (home : Path) : List Path := [(⟨home⟩ : Sdk).gcloudPath, (⟨home⟩ : Sdk).versionPath]
  i.config.toList ++ (i.sdkHome.map sdk).getD found

/-- What is at a path without links: a file, or else a directory. -/
def nodeAt (p : Path) : IO Machine.Node := do
  try
    let content ← IO.FS.readBinFile p.text
    return .file 0o755 content.toList
  catch _ => return .directory Machine.directoryMode

/-- Adds what a path names, if it names anything; the answer is the path without links. -/
def addPath (tree : FileTree) (p : Path) : IO (FileTree × Option Path) := do
  try
    let real : Path := ⟨toString (← IO.FS.realPath p.text)⟩
    let tree := if real = p then tree else tree.add p (.link real)
    return (tree.add real (← nodeAt real), some real)
  catch _ => return (tree, none)

/-- The files at some paths, and the installations that they belong to. -/
def treeOf (here : Path) (paths : List Path) : IO FileTree := do
  let mut tree := Machine.bareTree
  for p in paths do
    let (grown, real) ← addPath tree (here.join p)
    tree := grown
    match real.map Sdk.ofGcloudPath with
    | some (.ok sdk) =>
      let (grown, _) ← addPath tree sdk.versionPath
      tree := grown
    | _ => pure ()
  return tree

/-! ## Surroundings -/

/-- The variables that are passed on. -/
def variableNames : List String :=
  ["PATH", "HOME", "CLOUDSDK_APP_USE_GSUTIL", "CLOUDSDK_METRICS_ENVIRONMENT",
    "CLOUDSDK_METRICS_ENVIRONMENT_VERSION", "CLOUDSDK_CORE_SHOW_STRUCTURED_LOGS",
    "CLOUDSDK_APP_NUM_FILE_UPLOAD_PROCESSES", "CLOUDSDK_CORE_DISABLE_PROMPTS"]

def environment : IO Environment := do
  let values ← variableNames.mapM fun name => do
    return (← IO.getEnv name).map fun value => (name, value)
  return values.filterMap id

def now : IO Instant := do
  let t ← Std.Time.Timestamp.now
  return .sinceEpoch t.toSecondsSinceUnixEpoch.val.toNat 0

/-- A name in the form of a random identifier. -/
def newInvocation : IO String := do
  let groups ← [8, 4, 4, 4, 12].mapM fun (width : Nat) => do
    let digits ← (List.replicate width ()).mapM fun _ => do
      return Nat.digitChar (← IO.rand 0 15)
    return String.ofList digits
  return "-".intercalate groups

def machine (i : CommandLine.Invocation) : IO Machine := do
  let here : Path := ⟨toString (← IO.currentDir)⟩
  let env ← environment
  let moment ← now
  return {
    tree := (← treeOf here (paths i (env.get? "PATH"))).add here
      (.directory Machine.directoryMode)
    here := here.segments.filter (!Path.isIdle ·)
    environment := env
    os := "linux"
    timing := ⟨moment, moment, 0⟩
    invocation := ← newInvocation }

/-! ## Usage -/

def usage : String :=
  "Usage: gaeops [OPTIONS] <COMMAND>\n\nCommands: start, stop, delete, list, help\n"

def refuse (e : CommandLine.Refusal) : IO UInt32 := do
  if e = .help then IO.print usage else IO.eprint usage
  return e.exitCode

/-- Runs the program and answers its exit code. -/
def execute (args : List String) : IO UInt32 := do
  match CommandLine.parse args with
  | .error e => refuse e
  | .ok i =>
    let host := (← machine i).host
    match Program.ofArguments host (← IO.getEnv "RUST_LOG") (← now).text args with
    | .error e => refuse e
    | .ok result =>
      IO.print result.stdout
      IO.eprint result.stderr
      return result.exitCode

end AppVersions.Main

def main (args : List String) : IO UInt32 := AppVersions.Main.execute args
