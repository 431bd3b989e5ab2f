-- One side of the command line: the options and versions given before the subcommand, or after it.
-- An option whose value is an argument of its own is checked only when the next option, the next
-- version or the end of the level comes; until then other mistakes are reported before it.
import AppVersions.CommandLine.Opt
import AppVersions.CommandLine.Token

namespace AppVersions.CommandLine

/-! ## Refusals -/

/-- Why a command line is not carried out. -/
inductive Refusal
  | help
  | nothingGiven
  | missingSubcommand
  | missingVersions
  | invalidSubcommand
  | unknownArgument
  | invalidValue
  | tooManyValues
  | givenTwice
  deriving DecidableEq, Repr

/-- Asking for help is no mistake. -/
def Refusal.exitCode : Refusal → UInt32
  | .help => 0
  | _ => 2

/-! ## Levels -/

/-- An option that waits to be checked; it may still wait for its value. -/
structure Pending where
  opt : Opt
  value : Option String
  deriving DecidableEq, Repr

/-- What was given so far, in order. After two dashes alone, all that is left is positional. -/
structure Level where
  given : List (Opt × String) := []
  versions : List String := []
  pending : Option Pending := none
  trailing : Bool := false
  deriving DecidableEq, Repr

namespace Level

/-- The values of an option, in order. -/
def values (l : Level) (o : Opt) : List String := (l.given.filter (·.1 == o)).map (·.2)

/-- Whether the next argument is the value of an option. -/
def awaitsValue (l : Level) : Bool := l.pending.any (·.value.isNone)

/-! ## Options -/

/-- Adds an option with its value. -/
def add (l : Level) (o : Opt) (value : String) : Except Refusal Level :=
  if o = .help then .error .help
  else if !o.repeats && !(l.values o).isEmpty then .error .givenTwice
  else if !o.accepts value then .error .invalidValue
  else .ok { l with given := l.given ++ [(o, value)] }

/-- Checks the option that waits. -/
def settle (l : Level) : Except Refusal Level :=
  match l.pending with
  | none => .ok l
  | some ⟨_, none⟩ => .error .invalidValue
  | some ⟨o, some value⟩ => { l with pending := none }.add o value

/-- An option that is complete. -/
def give (l : Level) (o : Opt) (value : String) : Except Refusal Level := do
  (← l.settle).add o value

/-- An option whose value is still to come. -/
def await (l : Level) (o : Opt) : Except Refusal Level := do
  return { ← l.settle with pending := some ⟨o, none⟩ }

/-! ## Arguments -/

def long (scope : Scope) (l : Level) (name : String) (value : Option String) :
    Except Refusal Level :=
  match scope.named? name with
  | none => .error .unknownArgument
  | some o =>
    match o.takes, value with
    | .nothing, none => l.give o ""
    | .nothing, some _ => .error .tooManyValues
    | _, some value => l.give o value
    | _, none => l.await o

def letter (scope : Scope) (l : Level) (c : Char) : Except Refusal Level :=
  match scope.lettered? c with
  | some o => l.give o ""
  | none => .error .unknownArgument

/-- An argument that is no option and no value of one. Only a selection has a place for it. -/
def positional (scope : Scope) (l : Level) (s : String) : Except Refusal Level :=
  match scope with
  | .root =>
    if l.trailing && isSubcommandName s then .error .unknownArgument else .error .invalidSubcommand
  | .listing => .error .unknownArgument
  | .selection => do
    let l ← l.settle
    return { l with versions := l.versions ++ [s] }

/-- The level after one more argument. -/
def next (scope : Scope) (l : Level) (s : String) : Except Refusal Level :=
  if l.trailing then l.positional scope s
  else
    match Token.ofString s with
    | .separator => .ok { l with trailing := true }
    | .long name value => l.long scope name value
    | .short letters => letters.foldlM (letter scope) l
    | .plain =>
      match l.pending with
      | some ⟨o, none⟩ => .ok { l with pending := some ⟨o, some s⟩ }
      | _ => l.positional scope s

/-- The level that a list of arguments makes. -/
def read (scope : Scope) (args : List String) : Except Refusal Level := do
  (← args.foldlM (next scope) {}).settle

end Level

end AppVersions.CommandLine
