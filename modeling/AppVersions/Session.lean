-- Sessions: a sequence of operations over collaborators whose answers are scripted and may be
-- replaced between the steps.
import AppVersions.Runner

namespace AppVersions

/-! ## Scripted collaborators -/

/-- What the collaborators answer. -/
structure Script where
  sdk : Except SdkError Unit
  gcloud : Path
  spawner : Except IoError Unit
  handler : Except HandlerError Unit

/-- Collaborators that note every question and answer by the script. The process is the request. -/
def Script.backend (s : Script) : Backend SpawnRequest where
  validate := ⟨[.asked .validate], s.sdk⟩
  gcloudPath := ⟨[.asked .gcloudPath], s.gcloud⟩
  spawn request := ⟨[.asked (.spawn request)], s.spawner.map fun _ => request⟩
  handle request := ⟨[.asked (.handle request.command.length)], s.handler⟩

/-! ## Steps -/

inductive Step
  | operate (op : Operation)
  | run (arguments : List String) (directory : Option Path)
  | setSdk (sdk : Except SdkError Unit) (gcloud : Path)
  | setSpawner (spawner : Except IoError Unit)
  | setHandler (handler : Except HandlerError Unit)

/-- A session apart from its script. -/
structure Session where
  options : GcloudOptions
  os : String
  currentDirectory : Option Path
  invocation : String

namespace Session

def runner (s : Session) (script : Script) : Runner SpawnRequest where
  backend := script.backend
  options := s.options
  os := s.os
  currentDirectory := s.currentDirectory
  invocation := s.invocation

/-- The script after a step; only replacements change it. -/
def next (script : Script) : Step → Script
  | .setSdk sdk gcloud => { script with sdk, gcloud }
  | .setSpawner spawner => { script with spawner }
  | .setHandler handler => { script with handler }
  | .operate _ | .run _ _ => script

/-- What a step does and answers. -/
def step (s : Session) (script : Script) : Step → Run AppError Unit
  | .operate op => (s.runner script).operate op
  | .run arguments directory => (s.runner script).run arguments directory
  | .setSdk _ _ | .setSpawner _ | .setHandler _ => pure ()

/-- What every step does and answers, in order. -/
def play (s : Session) : Script → List Step → List (Traced (Except AppError Unit))
  | _, [] => []
  | script, st :: rest => (s.step script st).run :: s.play (next script st) rest

end Session

end AppVersions
