-- Executing programs: what stands at a path, the interpreters that scripts name, and programs that
-- are looked for on a search path.
import AppVersions.Machine.Toolbox

namespace AppVersions.Machine

/-! ## Interpreters -/

/-- How much of a script is looked at for its interpreter. -/
def firstBlock : Nat := 256

def isGap (c : Char) : Bool := c == ' ' || c == '\t'

/-- The interpreter that a script names in its first line, and the argument behind it. The block
that is looked at may end inside the line, but not inside the name, and its last byte is then not
used; behind a short script it holds null characters, which may stand for an empty name. -/
def interpreter? (content : List UInt8) : Option (Bytes × Option Bytes) :=
  match (Bytes.ofBytes (content.take firstBlock)).rightpad firstBlock '\x00' with
  | '#' :: '!' :: rest =>
    let line := rest.takeWhile (· != '\n')
    let isWhole := line.length < rest.length
    let endsName (c : Char) : Bool := isGap c || c == '\x00'
    let isNamed := isWhole || (line.dropWhile isGap).any endsName
    let line := if isWhole then (line.reverse.dropWhile isGap).reverse else line.dropLast
    let body := line.dropWhile isGap
    let name := body.takeWhile (!endsName ·)
    let behind := body.drop name.length
    if body = [] ∨ ¬isNamed then none
    else
      let argument :=
        if behind.head?.any isGap then (behind.dropWhile isGap).takeWhile (· != '\x00')
        else []
      some (name, if argument = [] then none else some argument)
  | _ => none

/-- How many interpreters may stand between a script and a program. -/
def maxInterpreters : Nat := 5

/-- Longer arguments, in bytes, are refused. -/
def maxArgumentBytes : Nat := 131071

/-- What stands at a path as a program: a part of the machine, with all arguments that it gets. -/
def programAt (t : FileTree) (here : Place) :
    Nat → Bytes → List Bytes → Except IoError (Builtin × List Bytes)
  | n, path, command => do
    match ← t.find here ⟨Bytes.text path⟩ with
    | .program b => return (b, command)
    | .file mode content =>
      if ¬mayRun mode then throw .accessDenied
      match interpreter? content, n with
      | some ([], _), _ => throw .accessDenied
      | some (name, argument), n + 1 =>
        programAt t here n name (name :: argument.toList ++ path :: command.tail)
      | some _, 0 => throw .tooManyLinks
      | none, _ => throw .noProgram
    | _ => throw .accessDenied

/-! ## Search paths -/

/-- Runs the program at a path in place of the present one. -/
abbrev Executor := Bytes → List Bytes → Act (Except IoError WaitStatus)

/-- The file of the plain shell. -/
def shellPath : Bytes := "/bin/sh".toList

/-- Runs the program at a path; what names no interpreter is a script of the plain shell. -/
def executeScript (run : Executor) : Executor := fun path command => do
  match ← run path command with
  | .error e =>
    if e = .noProgram then run shellPath (shellPath :: path :: command.tail) else return .error e
  | r => return r

/-- The search path where none is set. -/
def defaultSearchPath : Bytes := "/bin:/usr/bin".toList

/-- Tries the directories of a search path in order. One that may not be looked into, or a file that
may not be run, is remembered. -/
def search (run : Executor) (name : Bytes) (command : List Bytes) (isDenied : Bool)
    (last : IoError) :
    List Bytes → Act (Except IoError WaitStatus)
  | [] => return .error (if isDenied then .accessDenied else last)
  | d :: rest => do
    match ← executeScript run (if d = [] then name else d ++ '/' :: name) command with
    | .error e =>
      if e = .accessDenied then search run name command true e rest
      else if e = .noEntry ∨ e = .noDirectory then search run name command isDenied e rest
      else return .error e
    | r => return r

/-- Runs the program that a name means on the search path of the present environment. -/
def executeByName (run : Executor) (command : List Bytes) : Act (Except IoError WaitStatus) := do
  let name := command.headD []
  if name = [] then return .error .noEntry
  else if name.contains '/' then executeScript run name command
  else
    let path := ((← Act.process).environment.lookup "PATH".toList).getD defaultSearchPath
    search run name command false .noEntry (path.splitOn ':')

/-! ## Execution -/

/-- How the shells of a machine run, the plain one and the extended one. -/
abbrev Shells := Bool → List Bytes → Act WaitStatus

/-- Runs the program at a path in place of the present one; `n` bounds how deep tools run one
another. -/
def execute (shells : Shells) : Nat → Executor
  | 0, _, _ => return .error (.os 11)
  | n + 1, path, command => do
    Act.step
    if command.any fun s => maxArgumentBytes < s.length then return .error .tooManyArguments
    match programAt (← Act.tree) (← Act.here) maxInterpreters path command with
    | .error e => return .error e
    | .ok (.shell isExtended, command) => return .ok (← shells isExtended command)
    | .ok (.tool name, command) =>
      match toolbox.lookup name with
      | some tool =>
        let status ← tool {
          name := command.headD []
          arguments := command.tail
          run := fun due command => Act.apart due (executeByName (execute shells n) command) }
        return .ok (.exited status)
      | none => return .error .noEntry

end AppVersions.Machine
