-- What the name of a command means: a function, a routine of the shell or a program on the search
-- path, and the routines that tell about it.
import AppVersions.Machine.Execution
import AppVersions.Machine.Script.Asking
import AppVersions.Machine.Script.Grammar

namespace AppVersions.Machine.Script

/-- Names of routines that are not special. -/
def plainNames : List String :=
  ["[", "alias", "bg", "cd", "chdir", "command", "echo", "false", "fg", "getopts", "hash", "jobs",
    "kill", "printf", "pwd", "read", "test", "true", "type", "ulimit", "umask", "unalias", "wait"]

/-- Names of routines whose arguments may be settings, which are not split. -/
def assigningNames : List String := ["alias", "export", "local", "readonly"]

/-- What the name of a command means; a path stands for itself, and a name that is found nowhere has
a reason. -/
inductive Meaning
  | function (body : Command)
  | routine (name : String)
  | path
  | program (path : Bytes)
  | nothing (why : IoError)

/-- The search path that holds the usual programs. -/
def usualSearchPath : Bytes :=
  "/usr/local/sbin:/usr/local/bin:/usr/sbin:/usr/bin:/sbin:/bin".toList

namespace Sh

/-! ## Search paths -/

/-- The paths of a name on a search path. -/
def pathsOf (searched name : Bytes) : List Bytes :=
  (searched.splitOn ':').map fun d => if d = [] then name else d ++ '/' :: name

/-- The paths from the first one on that is a program, or why there is none. -/
def firstProgram (t : FileTree) (here : Place) : IoError → List Bytes → Except IoError (List Bytes)
  | e, [] => .error e
  | e, p :: ps =>
    match t.find here ⟨Bytes.text p⟩ with
    | .error e' => firstProgram t here (if e' = .noEntry ∨ e' = .noDirectory then e else e') ps
    | .ok n =>
      if n.isFile && mayRun n.mode then .ok (p :: ps) else firstProgram t here .accessDenied ps

def searchPath : Sh Bytes := return (← value? "PATH".toList).getD []

/-- The paths on a search path where a program may be, from the first one on where it is. -/
def programs (searched name : Bytes) : Sh (Except IoError (List Bytes)) := do
  return firstProgram (← Act.tree) (← Act.here) .noEntry (pathsOf searched name)

/-! ## Meanings -/

def isRoutine (name : Bytes) : Bool :=
  specialNames.contains (.ofList name) || plainNames.contains (.ofList name)

/-- What a name means; `searched` is another search path than the present one. -/
def meaning (searched : Option Bytes) (skipsFunctions : Bool) (name : Bytes) : Sh Meaning := do
  if name.contains '/' then return .path
  let functions := (← get).functions
  match if skipsFunctions then none else functions.lookup name with
  | some (_, body) => return .function body
  | none =>
    if isRoutine name then return .routine (.ofList name)
    let path ← searchPath
    match ← programs (searched.getD path) name with
    | .ok (p :: _) =>
      if searched.isNone then
        modify fun sh => if sh.tracked.contains name then sh
          else { sh with tracked := sh.tracked ++ [name] }
      return .program p
    | .ok [] => return .nothing .noEntry
    | .error e => return .nothing e

/-! ## Telling -/

/-- Tells what a name means, in a sentence or so that it could be used; the answer is also whether
it means anything. -/
def described (searched : Option Bytes) (isSentence : Bool) (name : Bytes) : Sh (Bytes × Bool) := do
  let say (s : String) : Bytes × Bool :=
    (name ++ (if isSentence then s.toList else []) ++ ['\n'], true)
  let missing : Bytes × Bool := (if isSentence then name ++ ": not found\n".toList else [], false)
  let sh ← get
  if keywords.contains (.ofList name) then return say " is a shell keyword"
  match sh.aliases.lookup name with
  | some text =>
    return (if isSentence then name ++ " is an alias for ".toList ++ text ++ ['\n']
      else "alias ".toList ++ settingLine [] name (some text), true)
  | none =>
    match ← meaning searched false name with
    | .function _ => return say " is a shell function"
    | .routine s =>
      return say
        (if specialNames.contains s then " is a special shell builtin" else " is a shell builtin")
    | .path =>
      if (← Act.tree).find (← Act.here) ⟨Bytes.text name⟩ |>.isOk then
        return say (" is " ++ String.ofList name)
      else return missing
    | .program p =>
      if !isSentence then return (p ++ ['\n'], true)
      let isTracked := searched.isNone && sh.tracked.contains name
      return (name ++ (if isTracked then " is a tracked alias for " else " is ").toList ++ p ++
        ['\n'], true)
    | .nothing _ => return missing

def tellTypes : Routine := fun _ arguments => do
  let mut status := 0
  for name in arguments do
    let (text, isKnown) ← described none true name
    status := max status (← print text)
    if !isKnown then status := 127
  return status

/-- The routine `command` where it only tells about a name. -/
def tellCommand : Routine := fun _ arguments =>
  withOptions "pvV" "" arguments fun options others => do
    let searched := if options.any (·.1 == 'p') then some usualSearchPath else none
    match options.reverse.find? (·.1 != 'p'), others with
    | some (c, _), name :: _ =>
      let (text, isKnown) ← described searched (c == 'V') name
      let status ← print text
      return if isKnown then status else 127
    | _, _ => return 0

def trackPrograms : Routine := fun _ arguments =>
  withOptions "rv" "" arguments fun options others => do
    if options.any (·.1 == 'r') then
      modify fun sh => { sh with tracked := [] }
      return 0
    if others = [] then
      let path ← searchPath
      let found ← (← get).tracked.filterMapM fun name => do
        match ← programs path name with
        | .ok (p :: _) => pure (some p)
        | _ => pure none
      print (Bytes.ofLines found)
    else
      let mut status := 0
      for name in others do
        match ← meaning none false name with
        | .nothing e =>
          complain (Complaint.notRun name e).plainText
          status := 1
        | _ => pure ()
      return status

end Sh

end AppVersions.Machine.Script
