-- A child process as its parent sees it, and the two ways to handle one: to pass its lines on, or
-- to keep them.
import AppVersions.Capture
import AppVersions.Error
import AppVersions.Lines
import AppVersions.OutputStream

namespace AppVersions

/-! ## Exit status -/

/-- The status that the system reports when a process is over. -/
structure WaitStatus where
  raw : Nat
  deriving DecidableEq, Repr

namespace WaitStatus

def exited (code : Nat) : WaitStatus := ⟨code % 256 * 256⟩

def killed (signal : Nat) : WaitStatus := ⟨signal % 128⟩

/-- The exit code, unless a signal ended the process. -/
def code (s : WaitStatus) : Option Int32 :=
  if s.raw % 128 = 0 then some (Int32.ofInt (s.raw / 256 % 256)) else none

def verdict (s : WaitStatus) : Except HandlerError Unit :=
  if s.raw = 0 then .ok () else .error (.nonZeroExit s.code)

end WaitStatus

/-! ## Children -/

/-- What a process writes on both streams, piece by piece, how it ends, and in which order its two
streams get their turns. -/
structure Child where
  stdout : List Fetch
  stderr : List Fetch
  status : WaitStatus
  turns : List OutputStream := []

/-- A line and the stream that it came on. -/
abbrev Delivery := OutputStream × String

/-- Two lists of lines in turns; where a list has run out or no turns are left, standard error goes
first. -/
def inTurns : List OutputStream → List String → List String → List Delivery
  | .stdout :: turns, out :: outs, errs => (.stdout, out) :: inTurns turns outs errs
  | .stderr :: turns, outs, err :: errs => (.stderr, err) :: inTurns turns outs errs
  | _ :: turns, outs, errs => inTurns turns outs errs
  | [], outs, errs => errs.map (.stderr, ·) ++ outs.map (.stdout, ·)

namespace Child

/-- The lines of both streams in the order of their turns. -/
def deliveries (c : Child) : List Delivery :=
  inTurns c.turns (pump c.stdout).lines (pump c.stderr).lines

/-- The status, when both streams were read to their ends; a failure on standard output counts
first. -/
def outcome (c : Child) : Except HandlerError WaitStatus := do
  match (pump c.stdout).result with
  | .error e => throw (.io e)
  | .ok () =>
    match (pump c.stderr).result with
    | .error e => throw (.io e)
    | .ok () => return c.status

/-! ## Passing on -/

/-- What the listener gets, and the verdict. -/
def stream (c : Child) : List Delivery × Except HandlerError Unit :=
  (c.deliveries, c.outcome.bind WaitStatus.verdict)

end Child

/-! ## Keeping -/

/-- The text of each stream so far. -/
structure Buffers where
  stdout : String := ""
  stderr : String := ""
  deriving DecidableEq, Repr

def Buffers.push (b : Buffers) : Delivery → Buffers
  | (.stdout, line) => { b with stdout := b.stdout ++ line ++ "\n" }
  | (.stderr, line) => { b with stderr := b.stderr ++ line ++ "\n" }

/-- The lines of a stream, added to its text. -/
def Buffers.receive (b : Buffers) (stream : OutputStream) (reads : List Fetch) : Buffers :=
  (pump reads).lines.foldl (fun b line => b.push (stream, line)) b

/-- When a process ran. -/
structure Timing where
  startedAt : Instant
  completedAt : Instant
  durationMs : UInt64

/-- Where a handler keeps the latest capture until it is taken. -/
abbrev CaptureSlot := Option Capture

namespace CaptureSlot

/-- Keeps the output of a process, whatever its status, once its streams were read to their ends. -/
def handle (slot : CaptureSlot) (timing : Timing) (c : Child) :
    Except HandlerError Unit × CaptureSlot :=
  let buffers := c.deliveries.foldl Buffers.push {}
  match c.outcome with
  | .error e => (.error e, slot)
  | .ok status =>
    (status.verdict, some {
      stdout := buffers.stdout
      stderr := buffers.stderr
      exitCode := status.code
      durationMs := timing.durationMs
      startedAt := timing.startedAt
      completedAt := timing.completedAt })

/-- The capture, which is gone afterwards. -/
def take (slot : CaptureSlot) : Option Capture × CaptureSlot := (slot, none)

end CaptureSlot

end AppVersions
