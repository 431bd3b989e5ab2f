-- The output of one finished process.
import AppVersions.Record

namespace AppVersions

structure Capture where
  stdout : String
  stderr : String
  exitCode : Option Int32
  durationMs : UInt64
  startedAt : Instant
  completedAt : Instant
  deriving DecidableEq

namespace Capture

def schema : Schema Capture where
  name := "CapturedOutput"
  fields := [⟨"stdout", .one .text, false⟩, ⟨"stderr", .one .text, false⟩,
    ⟨"exit_code", .optional .int32, false⟩, ⟨"duration_ms", .one .word64, false⟩,
    ⟨"started_at", .one .instant, false⟩, ⟨"completed_at", .one .instant, false⟩]
  toRecord c := (c.stdout, c.stderr, c.exitCode, c.durationMs, c.startedAt, c.completedAt, ())
  ofRecord := fun (stdout, stderr, exitCode, durationMs, startedAt, completedAt, ()) =>
    { stdout, stderr, exitCode, durationMs, startedAt, completedAt }
  ofRecord_toRecord _ := rfl
  toRecord_ofRecord _ := rfl
  names_nodup := by decide

end Capture

end AppVersions
