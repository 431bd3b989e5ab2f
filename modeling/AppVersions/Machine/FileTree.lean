-- A tree of files, directories, links and devices, what a path names in it, and how it changes.
import AppVersions.IoError
import AppVersions.Path
import AppVersions.Text.Utf8

namespace AppVersions.Machine

/-! ## Trees -/

/-- Programs that are part of the machine: shells, the plain one and the one with the extended
language, and tools by their names. -/
inductive Builtin
  | shell (isExtended : Bool)
  | tool (name : String)
  deriving DecidableEq, Repr

/-- Files that keep nothing: one that is always empty, one of zeros without end, one that is always
full, and the files that a process has open under a number. -/
inductive Device
  | nothing
  | zeros
  | full
  | numbered (n : Nat)
  deriving DecidableEq, Repr

/-- What stands at one place of a tree. -/
inductive Node
  | file (mode : Nat) (content : List UInt8)
  | program (builtin : Builtin)
  | device (d : Device)
  | directory (mode : Nat)
  | link (target : Path)

/-- Names from the root down. -/
abbrev Place := List (List Char)

/-- What stands where; the root is always a directory. Of two entries the first counts. -/
structure FileTree where
  entries : List (Place × Node) := []

/-! ## Modes -/

/-- Whether the owner may read a file of this mode. -/
def mayRead (mode : Nat) : Bool := mode / 256 % 2 == 1

/-- Whether the owner may change a file of this mode. -/
def mayWrite (mode : Nat) : Bool := mode / 128 % 2 == 1

/-- Whether the owner may run a file of this mode, or look into such a directory. -/
def mayRun (mode : Nat) : Bool := mode / 64 % 2 == 1

/-- The mode of a directory of the system, which nobody here may change. -/
def systemMode : Nat := 0o555

/-- The mode of a directory unless one is asked for. -/
def directoryMode : Nat := 0o755

namespace Node

/-- The permissions on a node. -/
def mode : Node → Nat
  | .file mode _ | .directory mode => mode
  | .program _ => 0o555
  | .device _ => 0o666
  | .link _ => 0o777

def isDirectory : Node → Bool
  | .directory _ => true
  | _ => false

/-- Whether a node is a plain file, with content of its own. -/
def isFile : Node → Bool
  | .file _ _ | .program _ => true
  | _ => false

end Node

namespace FileTree

def node? (t : FileTree) (place : Place) : Option Node :=
  if place = [] then some (.directory systemMode) else t.entries.lookup place

def put (t : FileTree) (place : Place) (n : Node) : FileTree :=
  ⟨(place, n) :: t.entries.filter (·.1 != place)⟩

def isDirectoryAt (t : FileTree) (place : Place) : Bool := (t.node? place).any Node.isDirectory

/-! ## Walking -/

/-- Longer names, in bytes, cannot exist. -/
def maxNameBytes : Nat := 255

/-- Follows segments from a place. A link is left to `jump`, with the place to go on from and the
segments that are still to come. -/
def walkUntilLink (t : FileTree) (jump : Place → List (List Char) → Except IoError Place) :
    Place → List (List Char) → Except IoError Place
  | place, [] => .ok place
  | place, s :: rest =>
    match t.node? place with
    | some (.directory mode) =>
      if ¬mayRun mode then .error .accessDenied
      else if Path.isIdle s then t.walkUntilLink jump place rest
      else if s = ['.', '.'] then t.walkUntilLink jump place.dropLast rest
      else if maxNameBytes < (Text.Utf8.encode s).length then .error .nameTooLong
      else
        match t.node? (place ++ [s]) with
        | none => .error .noEntry
        | some (.link target) =>
          if target.text = "" then .error .noEntry
          else jump (if target.isAbsolute then [] else place) (target.segments ++ rest)
        | some _ => t.walkUntilLink jump (place ++ [s]) rest
    | _ => .error .noDirectory

/-- Follows segments and links, as long as there are not too many links. -/
def walk (t : FileTree) : Nat → Place → List (List Char) → Except IoError Place
  | 0 => fun _ _ => .error .tooManyLinks
  | links + 1 => t.walkUntilLink (t.walk links)

/-- How many links one path may lead through. -/
def maxLinks : Nat := 40

/-- Paths of as many bytes, or more, are refused before they are followed. -/
def maxPathBytes : Nat := 4096

/-- What every path has to be like, whatever stands in the tree. -/
def checkPath (p : Path) : Except IoError Unit :=
  if p.text.toList.contains '\x00' then
    .error (.custom .invalidInput (some "file name contained an unexpected NUL byte"))
  else if p.text = "" then .error .noEntry
  else if maxPathBytes ≤ p.text.utf8ByteSize then .error .nameTooLong
  else .ok ()

/-- The place that a path names, seen from `here`. -/
def locate (t : FileTree) (here : Place) (p : Path) : Except IoError Place := do
  checkPath p
  t.walk (maxLinks + 1) (if p.isAbsolute then [] else here) p.segments

/-- The directory that a path leads through last, and the name in it, unless the path ends in no
name. -/
def locateEntry (t : FileTree) (here : Place) (p : Path) :
    Except IoError (Place × Option (List Char)) := do
  checkPath p
  let start := if p.isAbsolute then [] else here
  let segments := Text.dropEndWhile (· == []) p.segments
  match segments.getLast? with
  | none => return (start, none)
  | some name =>
    if Path.isIdle name || name == ['.', '.'] then
      return (← t.walk (maxLinks + 1) start segments, none)
    let above ← t.walk (maxLinks + 1) start segments.dropLast
    match t.node? above with
    | some (.directory mode) =>
      if ¬mayRun mode then throw .accessDenied
      if maxNameBytes < (Text.Utf8.encode name).length then throw .nameTooLong
      return (above, some name)
    | _ => throw .noDirectory

/-- The place of an entry, even if it is a link; it may be missing. -/
def entryPlace (t : FileTree) (here : Place) (p : Path) : Except IoError Place := do
  let (above, name) ← t.locateEntry here p
  return above ++ name.toList

/-- The place where a path puts a new file: a link that leads nowhere is followed. -/
def newPlace (t : FileTree) : Nat → Place → Path → Except IoError Place
  | 0, _, _ => .error .tooManyLinks
  | links + 1, here, p => do
    let (above, name) ← t.locateEntry here p
    let place := above ++ name.toList
    match t.node? place with
    | some (.link target) => t.newPlace links above target
    | _ => return place

/-! ## Questions -/

/-- What a path names. -/
def find (t : FileTree) (here : Place) (p : Path) : Except IoError Node := do
  match t.node? (← t.locate here p) with
  | some n => return n
  | none => throw .noEntry

def isDirectory (t : FileTree) (here : Place) (p : Path) : Bool :=
  match t.find here p with
  | .ok n => n.isDirectory
  | .error _ => false

def isFile (t : FileTree) (here : Place) (p : Path) : Bool :=
  match t.find here p with
  | .ok n => n.isFile
  | .error _ => false

def isExecutable (t : FileTree) (here : Place) (p : Path) : Bool :=
  match t.find here p with
  | .ok n => n.isFile && mayRun n.mode
  | .error _ => false

def readFile (t : FileTree) (here : Place) (p : Path) : Except IoError (List UInt8) := do
  match ← t.find here p with
  | .file mode content => if mayRead mode then return content else throw .accessDenied
  | .program _ | .device _ => return []
  | .directory _ => throw .isDirectory
  | .link _ => throw .noEntry

def placeText (place : Place) : String := .ofList ('/' :: ['/'].intercalate place)

/-- The path without links and detours to what `p` names, if that can be followed from the root. -/
def canonical? (t : FileTree) (here : Place) (p : Path) : Option Path :=
  match t.locate here p with
  | .error _ => none
  | .ok place =>
    let real : Path := ⟨placeText place⟩
    if (t.locate [] real).toOption = some place then some real else none

/-- The names in a directory, in the order of their bytes. -/
def names (t : FileTree) (place : Place) : List (List Char) :=
  let found := t.entries.filterMap fun (p, _) =>
    if p ≠ [] ∧ p.dropLast = place then p.getLast? else none
  (found.eraseDups.map String.ofList).mergeSort (· ≤ ·) |>.map String.toList

/-! ## Building -/

/-- The directories that are missing on the way to a place. -/
def putParents (t : FileTree) (place : Place) : FileTree :=
  (List.range place.length).foldl (fun t n =>
    if (t.node? (place.take n)).isNone then t.put (place.take n) (.directory directoryMode)
    else t) t

/-- Adds a node, with the directories above it. Links on the way are followed. -/
def add (t : FileTree) (p : Path) (n : Node) : FileTree :=
  let names := p.segments.filter (!Path.isIdle ·)
  let above := names.dropLast
  let t := match t.walk (maxLinks + 1) [] above with
    | .ok _ => t
    | .error _ => t.putParents names
  match t.walk (maxLinks + 1) [] above, names.getLast? with
  | .ok place, some name => t.put (place ++ [name]) n
  | _, _ => t

/-! ## Changes -/

/-- Whether entries of a directory may come and go. -/
def mayChange (t : FileTree) (place : Place) : Bool :=
  (t.node? place).any fun n => mayWrite n.mode && mayRun n.mode

/-- The tree without what stands at a place and below it. -/
def without (t : FileTree) (place : Place) : FileTree :=
  ⟨t.entries.filter fun (p, _) => !place.isPrefixOf p⟩

/-- Removes an entry, which a directory is only if it may be one. -/
def remove (t : FileTree) (place : Place) : Except IoError FileTree := do
  if place = [] ∨ (t.node? place).isNone then throw .noEntry
  if ¬t.mayChange place.dropLast then throw .accessDenied
  return t.without place

/-- Creates an entry where none is. -/
def create (t : FileTree) (place : Place) (n : Node) : Except IoError FileTree := do
  if (t.node? place).isSome then throw .alreadyThere
  if ¬t.isDirectoryAt place.dropLast then throw .noEntry
  if ¬t.mayChange place.dropLast then throw .accessDenied
  return t.put place n

/-- Moves what stands at a place, and all below it. -/
def move (t : FileTree) (source target : Place) : Except IoError FileTree := do
  if ¬(t.mayChange source.dropLast && t.mayChange target.dropLast) then throw .accessDenied
  if source = target then return t
  let t := t.without target
  return ⟨t.entries.map fun (p, n) =>
    if source.isPrefixOf p then (target ++ p.drop source.length, n) else (p, n)⟩

/-- Copies all that stands at a place to a free one. -/
def copy (t : FileTree) (source target : Place) : FileTree :=
  ⟨t.entries.filterMap (fun (p, n) =>
    if source.isPrefixOf p then some (target ++ p.drop source.length, n) else none) ++ t.entries⟩

end FileTree

end AppVersions.Machine
