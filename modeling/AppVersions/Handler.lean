-- Handling a child with a trace: its lines are delivered as they come, and the log tells how it
-- ended.
import AppVersions.Child
import AppVersions.Traced

namespace AppVersions

/-! ## Log entries -/

def exited (status : WaitStatus) : Log.Entry where
  level := .debug
  target := "gaeops_runner::handler"
  message := "gcloud process exited"
  fields := [("exit_code", Text.shownOption (fun c => toString c.toInt) status.code)]

/-- A line of gcloud as an entry of its own. -/
def lineEntry : Delivery → Log.Entry
  | (stream, line) =>
    { level := .info, target := "gcloud", message := line, fields := [("stream", stream.name)] }

/-! ## Listeners -/

/-- What is done with a line. -/
abbrev Listener := Delivery → Traced Unit

def printingListener : Listener
  | (stream, line) => Traced.print stream (line ++ "\n")

def loggingListener : Listener := fun d => Traced.log (lineEntry d)

def deliverAll (listener : Listener) (ds : List Delivery) : Traced Unit :=
  ⟨ds.flatMap fun d => (listener d).effects, ()⟩

/-! ## Handlers -/

/-- Logs how a process ended, once both of its streams were read. -/
def logOutcome (c : Child) : Run HandlerError WaitStatus := do
  match c.outcome with
  | .error e => throw e
  | .ok status =>
    Traced.log (exited status)
    return status

/-- Passes the lines on to the listener and judges the status. -/
def streaming (listener : Listener) (c : Child) : Run HandlerError Unit := do
  deliverAll listener c.deliveries
  let status ← logOutcome c
  match status.verdict with
  | .ok () => return
  | .error e => throw e

/-- Keeps the lines in the slot; the verdict, and the slot afterwards. -/
def capturing (timing : Timing) (slot : CaptureSlot) (c : Child) :
    Traced (Except HandlerError Unit × CaptureSlot) := do
  let _ ← (logOutcome c).run
  return slot.handle timing c

/-- Keeps the lines of a single process. -/
def keeping (timing : Timing) (c : Child) : Run HandlerError Unit := do
  match ← (capturing timing none c : Traced _) with
  | (verdict, slot) =>
    match slot with
    | some capture => Traced.keep capture
    | none => pure ()
    match verdict with
    | .ok () => return
    | .error e => throw e

end AppVersions
