-- A shell from its start: the variables that it begins with, its options, and the script that it
-- runs.
import AppVersions.Machine.Script.Running

namespace AppVersions.Machine.Script

/-! ## Variables -/

/-- The variables that every shell begins with. -/
def firstVariables (parent : Nat) : List (Bytes × Variable) :=
  [("IFS", defaultSeparators), ("OPTIND", ['1']), ("PATH", usualSearchPath),
    ("PPID", Bytes.ofNat parent), ("PS1", "$ ".toList), ("PS2", "> ".toList),
    ("PS4", "+ ".toList)].map
    fun (name, value) => (name.toList, { value := some value })

/-- The variables of an environment over others. Separators of fields and the place in the options
are not taken over. -/
def importVariables (bindings : List (Bytes × Variable)) (environment : List (Bytes × Bytes)) :
    List (Bytes × Variable) :=
  let own := ["IFS".toList, "OPTIND".toList, "PPID".toList]
  environment.foldl (fun vs (name, value) =>
    if !isName name then vs
    else
      let value :=
        if own.contains name then ((vs.lookup name).bind Variable.value).getD value else value
      Sh.placed vs name (some { value := some value, isExported := name ≠ "PPID".toList }))
    bindings

/-- A shell as it stands before it looks at its arguments. -/
def Shell.ofScene (scene : Scene) (isExtended : Bool) (name : Bytes) : Shell where
  scene
  name
  arguments := []
  number := scene.process.number
  isExtended
  bindings := importVariables (firstVariables scene.process.parent) scene.process.environment

namespace Sh

/-- Finds out the directory of the shell; a path that the environment tells is kept if it is right.
-/
def startDirectory : Sh Unit := do
  let told := (← value? "PWD".toList).getD []
  let here ← Act.here
  let isRight := told.head? = some '/' && match (← Act.tree).locate here ⟨Bytes.text told⟩ with
    | .ok place => place == here
    | .error _ => false
  let physical ← physicalDirectory
  setDirectory (if isRight then told else physical) false

/-! ## Scripts -/

/-- Runs the script in a file, or ends with its complaint. -/
def runScriptFile (e : Engine) (file : Bytes) : Sh Unit := do
  match ← Act.readPath ⟨Bytes.text file⟩ with
  | .error why =>
    let c := Complaint.notOpened false file why
    if (← get).isExtended then
      Act.complain ((← get).name ++ ": ".toList ++ c.extendedText ++ ['\n'])
      setStatus (if why = .noEntry then 127 else 126)
      throw .leave
    else fail c.plainText
  | .ok s =>
    modify fun sh => { sh with name := file }
    runText e s false false

/-- Looks at the arguments of a shell and runs the script that they lead to: a text, a file, or the
standard input. -/
def start (e : Engine) (arguments : List Bytes) : Sh Unit := do
  startDirectory
  let (own, rest?) ← readOptions "cl" (arguments.length + 1) [] arguments
  let rest := rest?.getD []
  if own.contains 'c' then
    modify fun sh => { sh with options := 'c' :: sh.options }
    match rest with
    | [] => fail "-c requires an argument".toList
    | s :: rest =>
      if let name :: arguments := rest then modify fun sh => { sh with name, arguments }
      runText e s false true
  else
    match rest, ← hasOption 's' with
    | file :: arguments, false =>
      modify fun sh => { sh with arguments }
      runScriptFile e file
    | arguments, _ =>
      modify fun sh => { sh with arguments }
      match ← Act.readAll 0 with
      | .ok s => runText e s false false
      | .error _ => return

end Sh

/-! ## Shells -/

/-- Runs a shell as the present process. -/
def startShell (e : Engine) (isExtended : Bool) (command : List Bytes) :
    Act WaitStatus := fun scene =>
  let sh := Shell.ofScene scene isExtended (command.headD [])
  let (r, sh) := Sh.wholly e (Sh.start e command.tail) sh
  match r with
  | .error (.ended w) => (.error w, sh.scene)
  | _ => (.ok (.exited sh.status), sh.scene)

/-- A deeper nesting of commands, functions and shells exhausts the memory of a shell. -/
def maxDepth : Nat := 20000

/-- An engine for commands that are nested at most so deep. -/
def engine : Nat → Engine
  | 0 => {
    run := fun _ _ _ => throw (.ended (.killed 11))
    expand := fun _ _ => throw (.ended (.killed 11))
    script := fun _ _ => throw (.ended (.killed 11))
    output := fun _ => throw (.ended (.killed 11))
    program := fun _ _ => return .error (.os 11) }
  | n + 1 => {
    run := fun c isTested isLast => Sh.runCommand (engine n) c isTested isLast
    expand := fun m w => Sh.expandPieces (engine n) m true w
    script := fun s isTested => Sh.runText (engine n) s isTested false
    output := fun c => Sh.outputOf (engine n) c
    program := fun path command =>
      execute (fun isExtended command => startShell (engine n) isExtended command) n path command }

/-- The shells of a machine. -/
def shells : Shells := startShell (engine maxDepth)

end AppVersions.Machine.Script
