-- Adding to tables: what a key, a dotted key or a header may add, and what it may not, because a
-- table can be written only once.
import AppVersions.Toml.Node

namespace AppVersions.Toml

namespace Entries

/-! ## Entries -/

def get? (es : Entries) (name : String) : Option Node :=
  (es.find? fun (k, _) => k.name == name).map (·.2)

/-- Replaces the value of a key that is there; the key stays as it was first written. -/
def replace (es : Entries) (name : String) (n : Node) : Entries :=
  es.map fun (k, old) => if k.name = name then (k, n) else (k, old)

/-- Adds a key that is not there at the end. -/
def add? (es : Entries) (k : Key) (n : Node) : Option Entries :=
  if (es.get? k.name).isSome then none else some (es ++ [(k, n)])

def remove (es : Entries) (name : String) : Entries := es.filter fun (k, _) => k.name != name

/-! ## Tables inside -/

/-- What kind of key leads through a table. -/
inductive Route
  | dottedKey
  | header
  deriving DecidableEq, Repr

/-- How a table came about that was missing on the way. -/
def Route.origin : Route → Origin
  | .dottedKey => .dotted
  | .header => .implied

/-- Whether a table may be entered on the way. Dotted keys enter no table that has a header, and
nothing enters braces. -/
def Route.enters : Route → Origin → Bool
  | _, .braces => false
  | .dottedKey, .header => false
  | _, _ => true

/-- A change of a table's entries, given how the table came about. -/
abbrev Change := Origin → Entries → Option Entries

/-- A change inside the last table of a list of tables. -/
def inLast (change : Node → Option Node) (ns : List Node) : Option (List Node) := do
  let last ← ns.getLast?
  return ns.dropLast ++ [← change last]

/-- Makes a change in the table that `path` leads to; tables that are missing on the way are made.
-/
def changeAt (route : Route) (change : Change) : List Key → Origin → Entries → Option Entries
  | [], origin, es => change origin es
  | k :: path, _, es =>
    match es.get? k.name with
    | none => do
      let inner ← changeAt route change path route.origin []
      es.add? k (.table route.origin none inner)
    | some (.table origin span inner) =>
      if route.enters origin then do
        let inner ← changeAt route change path origin inner
        return es.replace k.name (.table origin span inner)
      else none
    | some (.tables elements) => do
      let elements ← inLast (fun
        | .table origin span inner => do
          return .table origin span (← changeAt route change path origin inner)
        | _ => none) elements
      return es.replace k.name (.tables elements)
    | some _ => none

/-! ## Values -/

/-- Adds a value under a key. Its table was made by a dotted key exactly when the key is dotted. -/
def addValue (es : Entries) (origin : Origin) (path : List Key) (k : Key) (n : Node) :
    Option Entries :=
  changeAt .dottedKey (fun origin es =>
    if (origin == .dotted) = path.isEmpty then none else es.add? k n) path origin es

/-- The entries that a list of keys and values makes, added one after the other. -/
def ofAssignments (origin : Origin) (pairs : List (List Key × Key × Node)) : Option Entries :=
  pairs.foldlM (fun es (path, k, n) => es.addValue origin path k n) []

/-! ## Headers -/

/-- What a table that gets a header holds already: it may only have been implied so far. -/
def reopened? (es : Entries) (name : String) : Option Entries :=
  match es.get? name with
  | none => some []
  | some (.table .implied _ inner) => some inner
  | some _ => none

/-- Puts a finished table at the end, under its header. -/
def closeTable (es : Entries) (path : List Key) (k : Key) (n : Node) : Option Entries :=
  changeAt .header (fun _ es => es.add? k n) path .header es

/-- Puts a finished table at the end of the list of tables under its header. -/
def closeElement (es : Entries) (path : List Key) (k : Key) (n : Node) : Option Entries :=
  changeAt .header (fun _ es =>
    match es.get? k.name with
    | none => es.add? k (.tables [n])
    | some (.tables ns) => some (es.replace k.name (.tables (ns ++ [n])))
    | some _ => none) path .header es

end Entries

end AppVersions.Toml
