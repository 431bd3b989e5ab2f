-- Log entries and their lines.
import AppVersions.Text.Quoted

namespace AppVersions.Log

/-! ## Entries -/

inductive Level
  | error
  | warn
  | info
  | debug
  | trace
  deriving DecidableEq, Repr

namespace Level

def all : List Level := [error, warn, info, debug, trace]

def name : Level → String
  | .error => "ERROR"
  | .warn => "WARN"
  | .info => "INFO"
  | .debug => "DEBUG"
  | .trace => "TRACE"

/-- From 1, the gravest, to 5. -/
def rank : Level → Nat
  | .error => 1
  | .warn => 2
  | .info => 3
  | .debug => 4
  | .trace => 5

end Level

/-- Something worth a line in the log. -/
structure Entry where
  level : Level
  target : String
  message : String
  fields : List (String × String) := []
  deriving DecidableEq, Repr

/-- A character of a message. One that could steer a terminal is written by its number. -/
def tameChar (c : Char) : List Char :=
  if ['\x07', '\x08', '\x0c', '\x1b', '\x7f'].contains c then
    '\\' :: 'x' :: (Nat.toDigits 16 c.toNat).leftpad 2 '0'
  else if 0x80 ≤ c.toNat ∧ c.toNat ≤ 0x9F then Text.numbered c
  else [c]

/-- The line of an entry, written at the time `stamp`. The values of its fields stand as they are.
-/
def Entry.line (stamp : String) (e : Entry) : String :=
  let level := String.ofList (e.level.name.toList.leftpad 5 ' ')
  let message := String.ofList (e.message.toList.flatMap tameChar)
  let parts := message :: e.fields.map fun (name, value) => name ++ "=" ++ value
  stamp ++ " " ++ level ++ " " ++ e.target ++ ": " ++ " ".intercalate parts ++ "\n"

end AppVersions.Log
