-- The program: what it does with a command line, what it prints, and the code that it ends with.
import AppVersions.CommandLine.Invocation
import AppVersions.Config
import AppVersions.Handler
import AppVersions.Json.Layout
import AppVersions.Log.Filter
import AppVersions.Runner
import AppVersions.Sdk

namespace AppVersions

open CommandLine (Invocation Refusal)

namespace Program

/-! ## Failures -/

/-- The first stage that failed: the configuration file, or all that comes after it. -/
inductive Failure
  | config (cause : ConfigError)
  | app (cause : AppError)
  deriving DecidableEq

namespace Failure

def message : Failure → String
  | .config e => e.message
  | .app e => e.message

def sources : Failure → List String
  | .config _ => []
  | .app e => e.sources

def hint? : Failure → Option String
  | .config _ => none
  | .app e => e.hint?

/-- The sources below the message: one alone is indented, several are numbered. -/
def report (e : Failure) : String :=
  let rows :=
    match e.sources with
    | [] => []
    | [source] => ["\n\nCaused by:", "\n    " ++ source]
    | sources => "\n\nCaused by:" :: sources.zipIdx.map fun (source, n) =>
      "\n    " ++ toString n ++ ": " ++ source
  e.message ++ String.join rows

end Failure

/-! ## Log entries -/

def target : String := "gaeops"

def parsed (i : Invocation) : Log.Entry where
  level := .debug
  target := target
  message := "Parsed CLI arguments: " ++ i.shown

def finished (c : Capture) : Log.Entry where
  level := .info
  target := target
  message := "gcloud finished"
  fields := [("exit_code", Text.shownOption (fun n => toString n.toInt) c.exitCode),
    ("duration_ms", toString c.durationMs.toNat)]

def failed (e : Failure) : Log.Entry where
  level := .error
  target := target
  message := "Command execution failed: " ++ e.report

/-! ## Stages -/

/-- The installation that was named, or else the one on the search path. -/
def locate (host : Host) (home : Option Path) : Run SdkError Sdk := do
  match home with
  | some home => return ⟨home⟩
  | none =>
    match Sdk.discover host with
    | .error e => throw e
    | .ok sdk =>
      Traced.log sdk.discovered
      return sdk

/-- The collaborators that the surroundings make. It is noted what they are asked to launch. -/
def backend (host : Host) (sdk : Sdk) (handle : Child → Run HandlerError Unit) : Backend Child where
  validate := sdk.validate host
  gcloudPath := pure sdk.gcloudPath
  spawn request := ⟨[.asked (.spawn request)], host.launch request⟩
  handle := handle

def runner (host : Host) (sdk : Sdk) (options : GcloudOptions)
    (handle : Child → Run HandlerError Unit) : Runner Child where
  backend := backend host sdk handle
  options := options
  os := host.os
  currentDirectory := host.currentDirectory
  invocation := host.invocation

/-- Prints a capture, as it was or as an object. -/
def present (json : Bool) (c : Capture) : Traced Unit := do
  if json then Traced.print .stdout (Json.encode Capture.schema .indented c ++ "\n")
  else
    Traced.print .stdout c.stdout
    Traced.print .stderr c.stderr
    Traced.log (finished c)

/-- What is said of an operation that succeeded; a listing speaks for itself. -/
def done? : Operation → Option String
  | .start _ => some "✓ Versions started\n"
  | .stop _ => some "✓ Versions stopped\n"
  | .delete _ => some "✓ Versions deleted\n"
  | .list _ => none

/-- Carries out an operation. Lines of gcloud are passed on as they come, but those of a listing are
kept and printed together, also when it fails. -/
def operate (host : Host) (sdk : Sdk) (options : GcloudOptions) (json : Bool) (op : Operation) :
    Run AppError Unit := do
  match done? op with
  | some text =>
    (runner host sdk options (streaming printingListener)).operate op
    Traced.print .stdout text
  | none =>
    let r := runner host sdk options (keeping host.timing)
    match ← ((r.operate op).run.withKept : Traced _) with
    | (verdict, capture) =>
      match capture with
      | some c => present json c
      | none => pure ()
      match verdict with
      | .ok () => return
      | .error e => throw e

/-- Settles the options, locates the installation and carries out the operation. -/
def run (host : Host) (i : Invocation) : Run Failure Unit := do
  let options ← (Config.resolve host i.config i.options).adapt Failure.config
  let sdk ← (locate host i.sdkHome).adapt fun e => Failure.app (.sdk e)
  (operate host sdk options i.json i.operation).adapt Failure.app

/-- Carries out an invocation and reports how it went. -/
def perform (host : Host) (i : Invocation) : Traced UInt32 := do
  Traced.log (parsed i)
  match ← (run host i).run with
  | .ok () => return 0
  | .error e =>
    Traced.log (failed e)
    Traced.print .stderr ("Error: " ++ e.message ++ "\n")
    match e.hint? with
    | some hint => Traced.print .stderr (hint ++ "\n")
    | none => pure ()
    return 1

/-! ## Output -/

/-- What is left of a run of the program. -/
structure Result where
  exitCode : UInt32
  stdout : String
  stderr : String
  deriving DecidableEq, Repr

/-- What an effect writes on a stream; the log goes to standard error. -/
def written (filter : Log.Filter) (stamp : String) (stream : OutputStream) : Effect → String
  | .printed s text => if s = stream then text else ""
  | .logged e => if stream = .stderr ∧ filter.passes e then e.line stamp else ""
  | .asked _ | .kept _ => ""

/-- The output of a run whose log lines bear the time `stamp`. -/
def Result.ofTraced (filter : Log.Filter) (stamp : String) (x : Traced UInt32) : Result where
  exitCode := x.value
  stdout := String.join (x.effects.map (written filter stamp .stdout))
  stderr := String.join (x.effects.map (written filter stamp .stderr))

/-- A run of the program. `setting` may say what is logged; otherwise the command line does. -/
def ofArguments (host : Host) (setting : Option String) (stamp : String) (args : List String) :
    Except Refusal Result := do
  let i ← CommandLine.parse args
  return .ofTraced (.chosen setting i.verbosity) stamp (perform host i)

end Program

end AppVersions
