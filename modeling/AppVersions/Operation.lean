-- The four operations on versions, and the arguments that gcloud takes for each.
import AppVersions.Error
import AppVersions.Selection

namespace AppVersions

/-! ## Flags -/

/-- A flag and its value, or nothing when the value is unset. -/
def flag (name : String) (value : Option String) : List String :=
  match value with
  | some v => ["--" ++ name, v]
  | none => []

def flagBool (name : String) (value : Option Bool) : List String :=
  flag name (value.map fun b => if b then "true" else "false")

/-- The path is passed on as it was given. -/
def flagPath (name : String) (value : Option Path) : List String := flag name (value.map Path.text)

/-! ## Operations -/

inductive Operation
  | start (selection : Selection)
  | stop (selection : Selection)
  | delete (selection : Selection)
  | list (listing : Listing)
  deriving DecidableEq, Repr

namespace Operation

def name : Operation → String
  | .start _ => "start"
  | .stop _ => "stop"
  | .delete _ => "delete"
  | .list _ => "list"

/-- The versions named on the command line; a listing names none. -/
def versions : Operation → List String
  | .start s | .stop s | .delete s => s.versions
  | .list _ => []

def service? : Operation → Option String
  | .start s | .stop s | .delete s => s.service
  | .list l => l.service

def project? : Operation → Option String
  | .start s | .stop s | .delete s => s.project
  | .list l => l.project

/-- Only a listing may hide versions. -/
def hideNoTraffic? : Operation → Option Bool
  | .start _ | .stop _ | .delete _ => none
  | .list l => l.hideNoTraffic

def flags : Operation → List String
  | .start s | .stop s | .delete s => flag "service" s.service ++ flag "project" s.project
  | .list l =>
    flag "service" l.service ++ flag "project" l.project ++
      flagBool "hide-no-traffic" l.hideNoTraffic

def isListing : Operation → Bool
  | .list _ => true
  | _ => false

/-- The arguments of gcloud; all but a listing need a version. -/
def arguments (op : Operation) : Except AppError (List String) :=
  if op.versions = [] ∧ ¬op.isListing then
    .error (.invalidConfiguration
      ("at least one version is required for 'app versions " ++ op.name ++ "'"))
  else .ok (["app", "versions", op.name] ++ op.versions ++ op.flags)

end Operation

end AppVersions
