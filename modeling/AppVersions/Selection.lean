-- What an operation is about: some versions of a service, or all that a listing shows.
import AppVersions.Record

namespace AppVersions

/-! ## Versions to start, stop or delete -/

structure Selection where
  versions : List String
  service : Option String := none
  project : Option String := none
  deriving DecidableEq, Repr

namespace Selection

def withService (s : Selection) (service : String) : Selection := { s with service := some service }

def withProject (s : Selection) (project : String) : Selection := { s with project := some project }

def schema : Schema Selection where
  name := "VersionsSelectionConfiguration"
  fields := [⟨"versions", .many .text, false⟩, ⟨"service", .optional .text, true⟩,
    ⟨"project_id", .optional .text, true⟩]
  toRecord s := (s.versions, s.service, s.project, ())
  ofRecord := fun (versions, service, project, ()) => { versions, service, project }
  ofRecord_toRecord _ := rfl
  toRecord_ofRecord _ := rfl
  names_nodup := by decide

end Selection

/-! ## Versions to list -/

structure Listing where
  service : Option String := none
  project : Option String := none
  hideNoTraffic : Option Bool := none
  deriving DecidableEq, Repr

namespace Listing

/-- The versions of every service. -/
def all : Listing := {}

def withService (l : Listing) (service : String) : Listing := { l with service := some service }

def withProject (l : Listing) (project : String) : Listing := { l with project := some project }

def withHideNoTraffic (l : Listing) (hide : Bool) : Listing := { l with hideNoTraffic := some hide }

def schema : Schema Listing where
  name := "VersionsListConfiguration"
  fields := [⟨"service", .optional .text, true⟩, ⟨"project_id", .optional .text, true⟩,
    ⟨"hide_no_traffic", .optional .flag, true⟩]
  toRecord l := (l.service, l.project, l.hideNoTraffic, ())
  ofRecord := fun (service, project, hideNoTraffic, ()) => { service, project, hideNoTraffic }
  ofRecord_toRecord _ := rfl
  toRecord_ofRecord _ := rfl
  names_nodup := by decide

end Listing

end AppVersions
