-- What shells complain about: each kind of shell has words of its own for the same cause.
import AppVersions.IoError
import AppVersions.Machine.Bytes

namespace AppVersions.Machine.Script

/-- Causes that the plain shell and the extended one put differently. -/
inductive Complaint
  | unset (name : Bytes)
  | missing (name : Bytes) (orEmpty : Bool)
  | readOnly (name : Bytes)
  | notOpened (creates : Bool) (file : Bytes) (why : IoError)
  | notEntered (directory : Bytes) (why : IoError)
  | notRun (name : Bytes) (why : IoError)

namespace Complaint

/-- Whether a path leads nowhere. -/
def isMissing (e : IoError) : Bool := e == .noEntry || e == .noDirectory

/-- What the plain shell says. -/
def plainText : Complaint → Bytes
  | unset name | missing name false => name ++ ": parameter not set".toList
  | missing name true => name ++ ": parameter not set or null".toList
  | readOnly name => name ++ ": is read only".toList
  | notOpened creates file why =>
    let reason := if ¬isMissing why then why.reason
      else if creates then "Directory nonexistent" else "No such file"
    (if creates then "cannot create " else "cannot open ").toList ++ file ++ ": ".toList ++
      reason.toList
  | notEntered directory _ => "can't cd to ".toList ++ directory
  | notRun name why =>
    name ++ ": ".toList ++ (if isMissing why then "not found" else why.reason).toList

/-- What the extended shell says. -/
def extendedText : Complaint → Bytes
  | unset name => name ++ ": unbound variable".toList
  | missing name false => name ++ ": parameter not set".toList
  | missing name true => name ++ ": parameter null or not set".toList
  | readOnly name => name ++ ": readonly variable".toList
  | notOpened _ file why | notEntered file why => file ++ ": ".toList ++ why.reason.toList
  | notRun name why =>
    let reason := if isMissing why ∧ ¬name.contains '/' then "command not found" else why.reason
    name ++ ": ".toList ++ reason.toList

def text (isExtended : Bool) (c : Complaint) : Bytes :=
  if isExtended then c.extendedText else c.plainText

end Complaint

end AppVersions.Machine.Script
