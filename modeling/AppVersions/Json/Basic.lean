-- What every part of reading JSON shares: the three ways to fail, blanks, literals and punctuation.
import AppVersions.Mismatch
import AppVersions.Text.Reader

namespace AppVersions.Json

/-- Why a text could not be read: it is no JSON, it ends too early, or it is not of the wanted
shape. The first one from the left is the answer. -/
inductive Fault
  | malformed
  | truncated
  | mismatch (cause : Mismatch)
  deriving DecidableEq, Repr

abbrev Read := Reader Fault

def malformed {α : Type} : Read α := Reader.fail .malformed

def truncated {α : Type} : Read α := Reader.fail .truncated

def mismatch {α : Type} (cause : Mismatch) : Read α := Reader.fail (.mismatch cause)

/-- The four blanks of JSON. -/
def isBlank (c : Char) : Bool := c == ' ' || c == '\n' || c == '\t' || c == '\r'

def skipBlanks : Read Unit := Reader.skipWhile isBlank

/-- The first character after blanks, left in place. -/
def peekToken : Read (Option Char) := do
  skipBlanks
  Reader.peek

/-- Exactly these characters. -/
def literal : List Char → Read Unit
  | [] => pure ()
  | c :: cs => do
    match ← Reader.next with
    | none => truncated
    | some d => if c = d then literal cs else malformed

/-- The colon after a key, with blanks before it. -/
def colon : Read Unit := do
  match ← peekToken with
  | none => truncated
  | some ':' => let _ ← Reader.next
  | some _ => malformed

end AppVersions.Json
