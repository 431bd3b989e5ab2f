-- Why an operation failed: its configuration, the Cloud SDK, launching gcloud, or what became of
-- the process; with the message of each, its sources and a hint for the user.
import AppVersions.IoError

namespace AppVersions

/-! ## Causes -/

/-- What is wrong with the installed Cloud SDK. -/
inductive SdkError
  | notFound (reason : String)
  | outOfDate (installed required : String)
  | versionFile (reason : String)
  deriving DecidableEq, Repr

/-- What went wrong with a process after it was launched. An exit without a code is a signal. -/
inductive HandlerError
  | nonZeroExit (code : Option Int32)
  | io (cause : IoError)
  | failed (reason : String)
  deriving DecidableEq

inductive AppError
  | invalidConfiguration (reason : String)
  | sdk (cause : SdkError)
  | io (cause : IoError)
  | handler (cause : HandlerError)
  deriving DecidableEq

/-! ## Messages -/

def SdkError.message : SdkError → String
  | .notFound reason => "Cloud SDK not found: " ++ reason
  | .outOfDate installed required =>
    "Cloud SDK " ++ installed ++ " is out of date, version " ++ required ++ " or newer is required"
  | .versionFile reason => "Cloud SDK version file error: " ++ reason

def exitText : Option Int32 → String
  | some code => toString code.toInt
  | none => "terminated by signal"

def HandlerError.message : HandlerError → String
  | .nonZeroExit code => "Process exited with non-zero status: " ++ exitText code
  | .io cause => "IO error while handling process: " ++ cause.message
  | .failed reason => "Process handling failed: " ++ reason

def AppError.message : AppError → String
  | .invalidConfiguration reason => "Invalid configuration: " ++ reason
  | .sdk cause => cause.message
  | .io cause => "Failed to run gcloud: " ++ cause.message
  | .handler cause => "gcloud operation failed: " ++ cause.message

/-! ## Sources and hints -/

def HandlerError.sources : HandlerError → List String
  | .io cause => [cause.message]
  | _ => []

/-- The messages of what an error wraps, from the outside in. -/
def AppError.sources : AppError → List String
  | .io cause => [cause.message]
  | .handler cause => cause.message :: cause.sources
  | _ => []

def SdkError.hint : SdkError → String
  | .notFound _ =>
    "Install the Google Cloud SDK (https://cloud.google.com/sdk/docs/install) or pass --sdk-home."
  | .outOfDate _ _ => "Run \x60gcloud components update\x60 to upgrade the Cloud SDK."
  | .versionFile _ =>
    "The Cloud SDK installation looks damaged; consider reinstalling it."

/-- What to do about an error; only trouble with the Cloud SDK has a remedy. -/
def AppError.hint? : AppError → Option String
  | .sdk cause => some cause.hint
  | _ => none

end AppVersions
