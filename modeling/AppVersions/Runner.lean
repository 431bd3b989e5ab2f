-- Running gcloud: validate the SDK, build the request, launch it and hand the process on. The first
-- stage that fails ends the run.
import AppVersions.Traced

namespace AppVersions

/-! ## Collaborators -/

/-- What a runner needs: an SDK to validate and its gcloud, a way to launch a request as a process
of type `P`, and a way to handle that process. -/
structure Backend (P : Type) where
  validate : Run SdkError Unit
  gcloudPath : Traced Path
  spawn : SpawnRequest → Run IoError P
  handle : P → Run HandlerError Unit

/-- A runner for one operating system and current directory; `invocation` marks its log entries. -/
structure Runner (P : Type) where
  backend : Backend P
  options : GcloudOptions
  os : String
  currentDirectory : Option Path
  invocation : String

namespace Runner

variable {P : Type}

/-! ## Log entries -/

def target : String := "gaeops_runner::runner"

def rejected (r : Runner P) (e : SdkError) : Log.Entry where
  level := .warn
  target := target
  message := "Cloud SDK validation failed"
  fields := [("invocation_id", r.invocation), ("error", e.message)]

def submitting (r : Runner P) (request : SpawnRequest) : Log.Entry where
  level := .info
  target := target
  message := "Submitting gcloud command"
  fields := [("invocation_id", r.invocation), ("command", request.display)]

def completed (r : Runner P) : Log.Entry where
  level := .debug
  target := target
  message := "gcloud command completed"
  fields := [("invocation_id", r.invocation)]

def operating (arguments : List String) : Log.Entry where
  level := .info
  target := "gaeops_runner::versions"
  message := "Running app versions command"
  fields := [("arguments", Text.quotedList arguments)]

/-! ## Runs -/

/-- The request for `arguments`, with the gcloud that was found. -/
def request (r : Runner P) (gcloud : Path) (arguments : List String) (directory : Option Path) :
    SpawnRequest where
  command := commandLine (absolute r.currentDirectory gcloud) arguments r.options
  directory := directory
  overlay := r.options.overlay r.os

/-- Launches gcloud with `arguments`. -/
def run (r : Runner P) (arguments : List String) (directory : Option Path) : Run AppError Unit := do
  match ← r.backend.validate.run with
  | .error e =>
    Traced.log (r.rejected e)
    throw (.sdk e)
  | .ok () =>
    let gcloud ← r.backend.gcloudPath
    let request := r.request gcloud arguments directory
    Traced.log (r.submitting request)
    match ← (r.backend.spawn request).run with
    | .error e => throw (.io e)
    | .ok process =>
      match ← (r.backend.handle process).run with
      | .error e => throw (.handler e)
      | .ok () => Traced.log r.completed

/-- Carries out an operation on versions; its arguments are checked before anything else. -/
def operate (r : Runner P) (op : Operation) : Run AppError Unit := do
  match op.arguments with
  | .error e => throw e
  | .ok arguments =>
    Traced.log (operating arguments)
    r.run arguments none

end Runner

end AppVersions
