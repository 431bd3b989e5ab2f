-- The wording of failures: for every cause the whole sentence that a user reads, in a report or in
-- the log, and what is said to remedy it.
import AppVersions.Error

namespace AppVersions

/-! ## Input and output -/

/-- The number of an error stands behind its reason, and a kind of failure may have a text of its
own. -/
def IoError.wording : IoError → String
  | .os code => osMessage code ++ " (os error " ++ toString code ++ ")"
  | .custom _ (some text) => text
  | .custom kind none => kind.message

theorem IoError.message_eq (e : IoError) : e.message = e.wording := by
  rcases e with code | ⟨kind, _ | text⟩
  · rfl
  · rfl
  · rfl

/-! ## The Cloud SDK -/

def SdkError.wording : SdkError → String
  | .notFound reason => "Cloud SDK not found: " ++ reason
  | .outOfDate installed required =>
    "Cloud SDK " ++ installed ++ " is out of date, version " ++ required ++ " or newer is required"
  | .versionFile reason => "Cloud SDK version file error: " ++ reason

theorem SdkError.message_eq (e : SdkError) : e.message = e.wording := by
  cases e with
  | notFound reason => rfl
  | outOfDate installed required => rfl
  | versionFile reason => rfl

/-- What a user may do about it. -/
def SdkError.remedy : SdkError → String
  | .notFound _ =>
    "Install the Google Cloud SDK (https://cloud.google.com/sdk/docs/install) or pass --sdk-home."
  | .outOfDate _ _ => "Run \x60gcloud components update\x60 to upgrade the Cloud SDK."
  | .versionFile _ => "The Cloud SDK installation looks damaged; consider reinstalling it."

theorem SdkError.hint_eq (e : SdkError) : e.hint = e.remedy := by
  cases e with
  | notFound reason => rfl
  | outOfDate installed required => rfl
  | versionFile reason => rfl

/-! ## Operations -/

/-- The whole sentence, whichever layer the failure comes from. -/
def AppError.wording : AppError → String
  | .invalidConfiguration reason => "Invalid configuration: " ++ reason
  | .sdk e => e.wording
  | .io e => "Failed to run gcloud: " ++ e.wording
  | .handler (.nonZeroExit (some code)) =>
    "gcloud operation failed: Process exited with non-zero status: " ++ toString code.toInt
  | .handler (.nonZeroExit none) =>
    "gcloud operation failed: Process exited with non-zero status: terminated by signal"
  | .handler (.io e) => "gcloud operation failed: IO error while handling process: " ++ e.wording
  | .handler (.failed reason) => "gcloud operation failed: Process handling failed: " ++ reason

theorem AppError.message_eq (e : AppError) : e.message = e.wording := by
  -- The sentence of a cause stands behind that of the operation; together they are one text.
  have hjoin {front middle whole : String} (rest : String) (h : front ++ middle = whole) :
      front ++ (middle ++ rest) = whole ++ rest := by
    rw [← String.append_assoc, h]
  cases e with
  | invalidConfiguration reason => rfl
  | sdk e => exact e.message_eq
  | io e => exact congrArg ("Failed to run gcloud: " ++ ·) e.message_eq
  | handler e =>
    rcases e with (_ | code) | e | reason
    · decide
    · exact hjoin (toString code.toInt) (by decide)
    · have he : AppError.message (.handler (.io e)) =
          "gcloud operation failed: IO error while handling process: " ++ e.message :=
        hjoin e.message (by decide)
      exact he.trans (congrArg (fun text : String => _ ++ text) e.message_eq)
    · exact hjoin reason (by decide)

end AppVersions
