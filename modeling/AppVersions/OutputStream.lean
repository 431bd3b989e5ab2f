-- The two streams that a process writes.
import AppVersions.Json.Value

namespace AppVersions

inductive OutputStream
  | stdout
  | stderr
  deriving DecidableEq, Repr

namespace OutputStream

def all : List OutputStream := [stdout, stderr]

def name : OutputStream → String
  | .stdout => "Stdout"
  | .stderr => "Stderr"

def ofName? (s : String) : Option OutputStream := all.find? (·.name == s)

/-! ## As JSON -/

open Json

def encode (s : OutputStream) : String := .ofList (quote s.name)

/-- The stream of a name, read from its quotes on. -/
def named : Read OutputStream := do
  match ← token with
  | .text s =>
    match ofName? s with
    | some stream => return stream
    | none => mismatch (.unknownVariant s (all.map name))
  | found => mismatch (.wrongType found .variant)

/-- A stream is its name, or an object whose only key is its name, with no value. -/
def value : Read OutputStream := do
  match ← peekToken with
  | none => truncated
  | some '"' => named
  | some '\x7b' =>
    let _ ← Reader.next
    let stream ← named
    colon
    match ← token with
    | .null => pure ()
    | found => mismatch (.wrongType found .nothing)
    match ← peekToken with
    | none => truncated
    | some '\x7d' => let _ ← Reader.next
    | some _ => malformed
    return stream
  | some _ => malformed

def decode (s : String) : Except Fault OutputStream := document value s

end OutputStream

end AppVersions
