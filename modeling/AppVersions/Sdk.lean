-- Installations of the Cloud SDK: where gcloud is, which version is installed, and whether that is
-- recent enough.
import AppVersions.Host
import AppVersions.Traced
import AppVersions.Version

namespace AppVersions

/-- An installation, by its home directory. -/
structure Sdk where
  home : Path
  deriving DecidableEq, Repr

namespace Sdk

def gcloudPath (sdk : Sdk) : Path := (sdk.home.join ⟨"bin"⟩).join ⟨"gcloud"⟩

def versionPath (sdk : Sdk) : Path := sdk.home.join ⟨"VERSION"⟩

/-! ## Log entries -/

def discovered (sdk : Sdk) : Log.Entry where
  level := .debug
  target := "gaeops_runner::sdk"
  message := "Discovered Cloud SDK home"
  fields := [("home", sdk.home.text)]

def validated (v : Version) : Log.Entry where
  level := .debug
  target := "gaeops_runner::sdk"
  message := "Cloud SDK validated"
  fields := [("version", v.text)]

/-! ## Finding -/

/-- The installation whose gcloud is at `p`: its home is two steps up. -/
def ofGcloudPath (p : Path) : Except SdkError Sdk :=
  match p.parent?.bind Path.parent? with
  | some home => .ok ⟨home⟩
  | none => .error (.notFound ("cannot determine Cloud SDK home from " ++ p.text))

/-- The installation of the first gcloud on the search path, with links resolved. -/
def discover (host : Host) : Except SdkError Sdk :=
  match host.findProgram "gcloud" with
  | .error e => .error (.notFound ("gcloud was not found on PATH: " ++ e.message))
  | .ok p => ofGcloudPath ((host.canonical? p).getD p)

/-! ## Validation -/

/-- The version that the file at the home directory tells. -/
def version (sdk : Sdk) (host : Host) : Except SdkError Version :=
  let p := sdk.versionPath
  match host.readText p with
  | .error e => .error (.versionFile ("cannot read " ++ p.text ++ ": " ++ e.message))
  | .ok contents =>
    let raw := Text.trimBlanks contents
    match Version.read raw.toList with
    | .ok v => .ok v
    | .error e => .error (.versionFile
        ("cannot parse version '" ++ raw ++ "' from " ++ p.text ++ ": " ++ e.message))

/-- The oldest release that knows the operations on versions. -/
def minimumVersion : Version := ⟨296, 0, 0, [], []⟩

/-- The installed version, of an installation that is complete and recent enough. -/
def check (sdk : Sdk) (host : Host) : Except SdkError Version := do
  if ¬host.isDirectory sdk.home then
    throw (.notFound ("Cloud SDK home " ++ sdk.home.text ++ " is not a directory"))
  if ¬host.isFile sdk.gcloudPath then
    throw (.notFound ("gcloud binary not found at " ++ sdk.gcloudPath.text))
  let installed ← sdk.version host
  let least := minimumVersion
  if installed.isBefore least.major least.minor least.patch then
    throw (.outOfDate installed.text least.text)
  return installed

def validate (sdk : Sdk) (host : Host) : Run SdkError Unit := do
  match sdk.check host with
  | .error e => throw e
  | .ok installed => Traced.log (validated installed)

end Sdk

end AppVersions
