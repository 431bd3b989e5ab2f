-- Paths of files, as texts, and the components that they name: slashes separate, repeated slashes
-- and inner dots name nothing, and a leading slash is the root.
import AppVersions.Text.Blank

namespace AppVersions

/-- A path as it was written. -/
structure Path where
  text : String
  deriving DecidableEq, Repr

namespace Path

open AppVersions.Text (dropEndWhile)

/-! ## Components -/

/-- One step of a path. -/
inductive Part
  | root
  | here
  | up
  | name (s : List Char)
  deriving DecidableEq, Repr

def segments (p : Path) : List (List Char) := p.text.toList.splitOn '/'

/-- Segments after the first that name nothing. -/
def isIdle (s : List Char) : Bool := s == [] || s == ['.']

def Part.ofSegment (s : List Char) : Part := if s = ['.', '.'] then .up else .name s

def isAbsolute (p : Path) : Bool := p.text.toList.head? == some '/'

/-- The steps that a path names, from the left. A dot counts only at the very start. -/
def parts (p : Path) : List Part :=
  match p.segments with
  | [] => []
  | first :: rest =>
    let start :=
      if p.isAbsolute then [.root]
      else if first = [] then []
      else if first = ['.'] then [.here]
      else [Part.ofSegment first]
    start ++ (rest.filter (!isIdle ·)).map Part.ofSegment

/-- Two paths that name the same steps. -/
def Same (p q : Path) : Prop := p.parts = q.parts

instance (p q : Path) : Decidable (p.Same q) := by unfold Same; infer_instance

/-! ## Moving up and down -/

/-- The path without its last step, if it has one besides the root. -/
def parent? (p : Path) : Option Path :=
  match p.segments with
  | [] => none
  | first :: rest =>
    match dropEndWhile isIdle rest with
    | [] => if first = [] then none else some ⟨""⟩
    | body =>
      let rest := dropEndWhile isIdle body.dropLast
      if first = [] ∧ rest = [] then some ⟨"/"⟩
      else some ⟨.ofList (['/'].intercalate (first :: rest))⟩

/-- The path `q` seen from `p`: `q` itself if it is absolute. -/
def join (p q : Path) : Path :=
  if q.isAbsolute then q
  else if p.text.toList = [] ∨ p.text.toList.getLast? = some '/' then ⟨p.text ++ q.text⟩
  else ⟨p.text ++ "/" ++ q.text⟩

end Path

end AppVersions
