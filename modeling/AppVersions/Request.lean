-- The request to launch gcloud: its command, the directory to run in and the variables laid over
-- the environment.
import AppVersions.Operation
import AppVersions.Options

namespace AppVersions

/-! ## Environments -/

/-- Variables and their values; of two entries for one name the first counts. -/
abbrev Environment := List (String × String)

namespace Environment

def get? (env : Environment) (name : String) : Option String := env.lookup name

/-- `overlay` laid over `env`: what it sets wins. -/
def atop (overlay env : Environment) : Environment := overlay ++ env

end Environment

/-! ## Requests -/

/-- Everything needed to launch one process. Without a directory it runs where we run. -/
structure SpawnRequest where
  command : List String
  directory : Option Path
  overlay : Environment
  deriving DecidableEq, Repr

/-- The command as one line. -/
def SpawnRequest.display (r : SpawnRequest) : String := " ".intercalate r.command

namespace GcloudOptions

/-- The flags of every invocation, after the arguments of the operation. -/
def flags (o : GcloudOptions) : List String :=
  flag "format" o.outputFormat ++ flag "verbosity" o.verbosity ++
    flagPath "credential-file-override" o.credentialFile ++
    o.flagsFiles.flatMap fun p => flagPath "flags-file" (some p)

def setting (name : String) (value : Option String) : Environment :=
  match value with
  | some v => [(name, v)]
  | none => []

/-- The variables of every invocation on the operating system `os`. On Windows, parallel uploads
lose the credentials, so there is one upload at a time. -/
def overlay (o : GcloudOptions) (os : String) : Environment :=
  setting "CLOUDSDK_APP_USE_GSUTIL" (o.credentialFile.map fun _ => "0") ++
    setting "CLOUDSDK_METRICS_ENVIRONMENT" o.metricsEnvironment ++
    setting "CLOUDSDK_METRICS_ENVIRONMENT_VERSION" o.metricsEnvironmentVersion ++
    setting "CLOUDSDK_CORE_SHOW_STRUCTURED_LOGS" o.showStructuredLogs ++
    setting "CLOUDSDK_APP_NUM_FILE_UPLOAD_PROCESSES" (if os = "windows" then some "1" else none) ++
    setting "CLOUDSDK_CORE_DISABLE_PROMPTS" (some "1")

end GcloudOptions

/-- A relative path is seen from the current directory, where there is one. -/
def absolute (currentDirectory : Option Path) (p : Path) : Path :=
  if p.isAbsolute then p
  else
    match currentDirectory with
    | some d => d.join p
    | none => p

/-- The whole command line: gcloud, the arguments, and the flags of the options. -/
def commandLine (gcloud : Path) (arguments : List String) (o : GcloudOptions) : List String :=
  gcloud.text :: (arguments ++ o.flags)

end AppVersions
