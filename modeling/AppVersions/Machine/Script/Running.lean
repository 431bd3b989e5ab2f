-- Running the commands of a script: their words are expanded, their files led elsewhere, and
-- routines, functions or programs do the rest.
import AppVersions.Machine.Script.Lookup
import AppVersions.Machine.Script.Places
import AppVersions.Machine.Script.Redirecting
import AppVersions.Machine.Script.Reports
import AppVersions.Machine.Script.Settings
import AppVersions.Machine.Script.Signals

namespace AppVersions.Machine.Script.Sh

/-! ## Routines -/

/-- The routine of a name. -/
def routine (name : String) (isTested : Bool) : Routine :=
  match name with
  | ":" | "true" => fun _ _ => return 0
  | "false" => fun _ _ => return 1
  | "." => runFile
  | "[" => decideCondition true
  | "alias" => defineAliases
  | "bg" | "fg" => resumeJob
  | "break" => leaveLoops
  | "cd" | "chdir" => changeDirectory
  | "command" => tellCommand
  | "continue" => nextRound
  | "echo" => echoArguments
  | "eval" => evaluateText isTested
  | "exit" => leaveShell
  | "export" => exportVariables
  | "getopts" => nextOption
  | "hash" => trackPrograms
  | "jobs" => listJobs
  | "kill" => sendSignals
  | "local" => keepVariables
  | "printf" => printFormat
  | "pwd" => printDirectory
  | "read" => readFields
  | "readonly" => protectVariables
  | "return" => leaveFunction
  | "set" => setShell
  | "shift" => shiftArguments
  | "test" => decideCondition false
  | "times" => printTimes
  | "trap" => trapSignals
  | "type" => tellTypes
  | "ulimit" => printLimits
  | "umask" => setMask
  | "unalias" => removeAliases
  | "unset" => unsetNames
  | "wait" => waitForJobs
  | _ => fun _ _ => return 0

/-- Runs a routine under its name. What goes wrong in one that is not special only makes its status.
-/
def runRoutine (isSpecial : Bool) (name : Bytes) (a : Sh Nat) : Sh Unit := do
  let before := (← get).command
  modify fun sh => { sh with command := some name }
  let r ← attempt (do setStatus (← a))
  modify fun sh => { sh with command := before }
  match r with
  | .ok () => return
  | .error .fail => if isSpecial then throw .fail
  | .error stop => throw stop

/-! ## Programs -/

/-- Tries to run a program at each of some paths in place of the shell. -/
def tryPaths (e : Engine) (command : List Bytes) : IoError → List Bytes → Sh IoError
  | why, [] => return why
  | why, p :: ps => do
    match ← executeScript e.program p command with
    | .ok w => throw (.ended w)
    | .error why' =>
      tryPaths e command (if why' = .noEntry ∨ why' = .noDirectory then why else why') ps

/-- Goes on as a program; if none can be run, the shell is left. -/
def become (e : Engine) (searched : Option Bytes) (command : List Bytes) : Sh Unit := do
  let name := command.headD []
  let paths ← if name.contains '/' then pure [name]
    else do
      let path ← searchPath
      match ← programs (searched.getD path) name with
      | .ok ps => pure ps
      | .error _ => pure (pathsOf (searched.getD path) name)
  let environment ← environment
  Act.changeProcess fun p => { p with environment }
  let why ← tryPaths e command .noEntry paths
  if (← get).isExtended then
    let isDirectory := (← Act.tree).isDirectory (← Act.here) ⟨Bytes.text name⟩
    complainOf (.notRun name (if isDirectory then .isDirectory else why))
  else complainOf (.notRun name why)
  setStatus (if [IoError.noEntry, .noDirectory, .nameTooLong, .tooManyLinks].contains why then 127
    else 126)
  throw .leave

/-- Whether a trap would be lost if the shell went on as something else. -/
def hasTraps : Sh Bool := return (← get).traps.any fun (_, s) => !s.isEmpty

/-- Runs something as a process of its own, and takes its status. -/
def runApart (a : Sh Unit) : Sh Unit := do
  let w ← apart a
  attend
  report w
  setStatus (statusOf w)

/-- Runs a program, in place of the shell if nothing follows. -/
def runProgram (e : Engine) (searched : Option Bytes) (command : List Bytes) (isLast : Bool) :
    Sh Unit := do
  if isLast && !(← hasTraps) then become e searched command
  else runApart (become e searched command)

/-! ## Functions -/

/-- How deep functions may run one another. -/
def maxFunctionDepth : Nat := 1000

/-- Runs a function with arguments of its own. -/
def runFunction (e : Engine) (body : Command) (arguments : List Bytes) (isTested : Bool) :
    Sh Unit := do
  let sh ← get
  if maxFunctionDepth ≤ sh.functionDepth then
    fail ("Maximum function recursion depth (".toList ++ .ofNat maxFunctionDepth ++
      ") reached".toList)
  set { sh with
    arguments
    optionIndex := 1
    optionOffset := 0
    loops := 0
    functionDepth := sh.functionDepth + 1 }
  let r ← attempt (e.run body isTested false)
  modify fun after => { after with
    arguments := sh.arguments
    optionIndex := sh.optionIndex
    optionOffset := sh.optionOffset
    loops := sh.loops
    functionDepth := sh.functionDepth }
  match r with
  | .ok () | .error .leaveFunction => return
  | .error stop => throw stop

/-! ## Names of commands -/

/-- The fields of the first words that come to any, and the words behind them. -/
def firstFields (e : Engine) : List Word → Sh (List Bytes × List Word)
  | [] => return ([], [])
  | w :: ws => do
    match ← fields e w with
    | [] => firstFields e ws
    | found => return (found, ws)

/-- The name and the arguments of a simple command as far as they are known, with the words that are
still to be expanded. -/
structure Naming where
  fields : List Bytes
  words : List Word
  searched : Option Bytes := none
  skipsFunctions : Bool := false
  isSpecial : Option Bool := none
  routine : Option String := none

/-- The arguments behind `command` and its options, unless it has to do its own work. -/
def passOptions (e : Engine) : Nat → List Bytes → Naming → Sh (Naming × Bool)
  | 0, _, x => return (x, false)
  | n + 1, behind, x => do
    let (behind, x) ← if behind ≠ [] then pure (behind, x)
      else do
        let (more, words) ← firstFields e x.words
        pure (more, { x with fields := x.fields ++ more, words })
    match behind with
    | [] => return (x, false)
    | ['-', '-'] :: behind =>
      let (behind, x) ← if behind ≠ [] then pure (behind, x)
        else do
          let (more, words) ← firstFields e x.words
          pure (more, { x with fields := x.fields ++ more, words })
      return if behind = [] then (x, false)
        else ({ x with fields := behind, skipsFunctions := true }, true)
    | ('-' :: c :: cs) :: behind =>
      if (c :: cs).all (· == 'p') then
        passOptions e n behind { x with searched := some usualSearchPath }
      else return ({ x with searched := none }, false)
    | behind => return ({ x with fields := behind, skipsFunctions := true }, true)

/-- Finds out whether a simple command is a routine, behind any number of `command`s. -/
def named (e : Engine) : Nat → Naming → Sh Naming
  | 0, x => return x
  | n + 1, x => do
    let name := x.fields.headD []
    let isFunction := !x.skipsFunctions && ((← get).functions.lookup name).isSome
    if isFunction || name.contains '/' || !isRoutine name then return { x with routine := none }
    let isSpecial := !(← get).isExtended && specialNames.contains (.ofList name)
    let x := { x with
      routine := some (.ofList name)
      isSpecial := some (x.isSpecial.getD isSpecial) }
    if name ≠ "command".toList then return x
    match ← passOptions e (n + 1) x.fields.tail x with
    | (x, true) => named e n x
    | (x, false) => return x

/-- A word among the arguments of a routine that takes settings, which is not split if it is one. -/
def argumentFields (e : Engine) (isAssigning : Bool) (w : Word) : Sh (List Bytes) := do
  if isAssigning && w.setting?.isSome then return [← settingText e w] else fields e w

/-! ## Simple commands -/

/-- Characters that need no quotes. -/
def isBare (c : Char) : Bool := c.isAlphanum || "%+,-./:=@_".toList.contains c

/-- Shows a command before it runs, on the file that the errors of the shell go to. -/
def trace (errors : Option Nat) (settings : List (Bytes × Bytes)) (fields : List Bytes) :
    Sh Unit := do
  if ← hasOption 'x' then
    let lead := (← value? "PS4".toList).getD []
    let isExtended := (← get).isExtended
    let shown (s : Bytes) : Bytes :=
      if isExtended && !(s ≠ [] && s.all isBare) then quoted (s.length + 1) s else s
    let words := settings.map (fun (name, value) => name ++ '=' :: shown value) ++ fields.map shown
    let present ← Act.channelNumber? 2
    Act.setFile 2 errors
    Act.complain (lead ++ Bytes.unwords words ++ ['\n'])
    Act.setFile 2 present

/-- Sets the variables in front of a command. -/
def setInFront (e : Engine) (isKept exports : Bool) :
    List (Bytes × Word) → Sh (List (Bytes × Bytes))
  | [] => return []
  | (name, w) :: rest => do
    let s ← settingText e w
    if isKept then saveVariable name
    setVariable name s (isKept || exports)
    return (name, s) :: (← setInFront e isKept exports rest)

/-- Runs what a simple command means. -/
def runMeaning (e : Engine) (x : Naming) (isTested isLast : Bool) : Sh Unit := do
  let arguments := x.fields.tail
  match x.fields, x.routine with
  | [], _ => setStatus (← get).outputStatus
  | name :: _, some s =>
    let isSpecial := x.isSpecial.getD false
    if s = "exec" then
      runRoutine isSpecial name (withoutOptions arguments fun others => do
        if others ≠ [] then become e none others
        return 0)
    else runRoutine isSpecial name (routine s isTested e arguments)
  | name :: _, none =>
    match ← meaning x.searched x.skipsFunctions name with
    | .function body => runFunction e body arguments isTested
    | .routine s => runRoutine false name (routine s isTested e arguments)
    | .path | .program _ => runProgram e x.searched x.fields isLast
    | .nothing why =>
      complainOf (.notRun name why)
      setStatus 127

/-- Runs a simple command. Settings in front of a function or a program, or of a routine that is not
special, end with it. -/
def runSimple (e : Engine) (settings : List (Bytes × Word)) (words : List Word)
    (redirections : List Redirection) (isTested isLast : Bool) : Sh Unit := do
  modify fun sh => { sh with outputStatus := 0 }
  let (first, rest) ← firstFields e words
  let x ← if first = [] then pure { fields := [], words := [] }
    else named e (words.length + 1) { fields := first, words := rest }
  let isAssigning := x.routine.any assigningNames.contains
  let others ← x.words.mapM (argumentFields e isAssigning)
  let x := { x with fields := x.fields ++ others.flatten }
  let isExec := x.routine = some "exec"
  let isSpecial := x.isSpecial = some true
  let isKept := x.fields ≠ [] && !isSpecial
  let targets ← redirections.mapM (targetOf e)
  let errors ← Act.channelNumber? 2
  let files ← kept (targets.map (·.1))
  let body : Sh Unit := do
    if ← redirectAll e targets then
      let settings ← setInFront e isKept (isExec && 1 < x.fields.length) settings
      trace errors settings x.fields
      runMeaning e x isTested isLast
    else if isSpecial then throw .fail
  let whole := if isKept then withSaved body else body
  thenAlways whole (if isExec then pure () else restore files)

/-! ## Loops -/

/-- Runs the body of a loop; the answer is whether the loop goes on. -/
def inLoop (a : Sh Unit) : Sh Bool := do
  modify fun sh => { sh with loops := sh.loops + 1 }
  let r ← thenAlways (attempt a) (modify fun sh => { sh with loops := sh.loops - 1 })
  match r with
  | .ok () => return true
  | .error (.leaveLoop (n + 2)) => throw (.leaveLoop (n + 1))
  | .error (.nextRound (n + 2)) => throw (.nextRound (n + 1))
  | .error (.leaveLoop _) => return false
  | .error (.nextRound _) => return true
  | .error stop => throw stop

/-- Repeats a body as long as the condition has the wanted outcome, at most `n` times. -/
def repeatWhile (e : Engine) (wanted isTested : Bool) (condition body : Command) :
    Nat → Nat → Sh Unit
  | 0, status => setStatus status
  | n + 1, status => do
    Act.step
    let mut goesOn := true
    let mut status := status
    if ← inLoop (e.run condition true false) then
      if ((← get).status = 0) = wanted then
        goesOn ← inLoop (e.run body isTested false)
        status := (← get).status
      else goesOn := false
    else
      goesOn := false
      status := (← get).status
    if goesOn then repeatWhile e wanted isTested condition body n status else setStatus status

/-- Runs a body for each of some values. -/
def forEach (e : Engine) (isTested : Bool) (name : Bytes) (body : Command) : List Bytes → Sh Unit
  | [] => return
  | s :: rest => do
    Act.step
    setVariable name s false
    if ← inLoop (e.run body isTested false) then forEach e isTested name body rest

/-! ## Cases -/

/-- Whether one of some patterns accepts a text. -/
def acceptsAny (e : Engine) (s : Bytes) : List Word → Sh Bool
  | [] => return false
  | w :: ws => do
    if Glyph.accept (← pattern e w) s then return true else acceptsAny e s ws

def runCase (e : Engine) (s : Bytes) (isTested isLast : Bool) : List (List Word × Command) → Sh Unit
  | [] => setStatus 0
  | (patterns, body) :: rest => do
    if ← acceptsAny e s patterns then
      match body with
      | .nothing => setStatus 0
      | body => e.run body isTested isLast
    else runCase e s isTested isLast rest

/-! ## Processes -/

/-- How much a pipe takes before its writer has to wait for the reader, for good if need be. -/
def pipeRooms : List Nat := [1048576, 16777216]

/-- What has been written into a pipe. -/
def pipeContent (k : Nat) : Sh (Bytes × Bool) := do
  let system ← Act.system
  match system.channels[k]? with
  | some (.pipe pieces room) => return (pieces.reverse.flatten, room == 0)
  | _ => return ([], false)

/-- Runs the parts of a pipe one after the other, and tells how they ended, the last one first. What
a part writes waits for the next one. -/
def runParts (e : Engine) (isTested : Bool) (room : Nat) (ended : List WaitStatus) :
    List Command → Option Nat → Sh (List WaitStatus)
  | [], _ => return ended
  | c :: rest, input => do
    let output ← if rest = [] then pure none
      else do pure (some (← Act.newChannel (.pipe [] room)))
    let w ← apart do
      if let some k := input then Act.setFile 0 (some k)
      if let some k := output then Act.setFile 1 (some k)
      wholly e (e.run c isTested true)
    match output with
    | none => return w :: ended
    | some k =>
      let (s, isCut) ← pipeContent k
      Act.setChannel k (.source s isCut)
      runParts e isTested room (w :: ended) rest (some k)

/-- The status of a pipe: that of its last part, or of the last one that failed if the shell is
asked for that. -/
def pipeStatus (ended : List WaitStatus) : Sh Nat := do
  let statuses := ended.map statusOf
  let last := statuses.headD 0
  return if ← hasOption failingPipes then (statuses.find? (· != 0)).getD last else last

/-- Runs a pipe with more and more room, until no reader finds that something is missing. Signals
to the shell wait until all parts have run. -/
def runPipe (e : Engine) (parts : List Command) (isTested : Bool) : List Nat → Sh Unit
  | [] => return
  | room :: rooms => do
    let before ← get
    let wasStarved := before.scene.system.isStarved
    Act.changeSystem fun s => { s with isStarved := false }
    let ended ← runParts e isTested room [] parts none
    let isStarved := (← Act.system).isStarved
    if isStarved && !rooms.isEmpty then
      set before
      runPipe e parts isTested rooms
    else
      Act.changeSystem fun s => { s with isStarved := wasStarved || isStarved }
      attend
      for w in ended.reverse do report w
      setStatus (← pipeStatus ended)

/-- Runs a command in brackets. -/
def runInBrackets (e : Engine) (body : Command) (targets : List (Nat × Target))
    (isTested isLast : Bool) : Sh Unit := do
  let inner : Sh Unit := do
    targets.forM (redirect e false)
    e.run body isTested true
  if isLast && !(← hasTraps) then inner else runApart (wholly e inner)

/-- Starts a command that nobody waits for. It reads nothing, and is not interrupted. -/
def runInBackground (e : Engine) (body : Command) (targets : List (Nat × Target)) : Sh Unit := do
  let start := (← Act.process).clock
  let number := (← Act.system).nextProcess
  let outcome ← apart do
    let nothing ← Act.newChannel (.device .nothing)
    Act.setFile 0 (some nothing)
    Act.changeProcess fun p => { p with clock := p.clock + 1, ignored := 2 :: 3 :: p.ignored }
    wholly e do
      targets.forM (redirect e false)
      e.run body false true
  let finish := (← Act.process).clock
  let last := (← Act.system).nextProcess - 1
  Act.changeProcess fun p => { p with clock := start }
  modify fun sh => { sh with
    jobs := { number, last, finish, outcome } :: sh.jobs.filter Job.isNews
    lastJob := some number }
  setStatus 0

/-- The output of a command, without the line feeds at its end. -/
def outputOf (e : Engine) (c : Command) : Sh Bytes := do
  let k ← Act.newChannel (.pipe [] (Nat.pow 2 40))
  let w ← apart do
    Act.setFile 1 (some k)
    wholly e (e.run c false true)
  attend
  report w
  modify fun sh => { sh with outputStatus := statusOf w }
  let (s, _) ← pipeContent k
  Act.setChannel k .directory
  return Bytes.chomp (s.filter (· != '\x00'))

/-! ## Commands -/

def setLine (line : Nat) : Sh Unit := modify fun sh => { sh with line }

/-- Whether the shell is left when a command of this form fails. -/
def counts : Command → Bool
  | .simple _ _ _ _ | .pipe _ | .apart _ _ _ => true
  | _ => false

/-- What a command does, whatever the signals that arrive meanwhile. -/
def runForm (e : Engine) (c : Command) (isTested isLast : Bool) : Sh Unit := do
  match c with
  | .nothing => return
  | .simple line settings words redirections =>
    setLine line
    runSimple e settings words redirections isTested isLast
  | .sequence a b =>
    e.run a isTested false
    e.run b isTested isLast
  | .both a b =>
    e.run a true false
    if (← get).status = 0 then e.run b isTested isLast
  | .either a b =>
    e.run a true false
    if (← get).status ≠ 0 then e.run b isTested isLast
  | .negate a =>
    e.run a true false
    setStatus (if (← get).status = 0 then 1 else 0)
  | .pipe parts => runPipe e parts isTested pipeRooms
  | .apart line body redirections =>
    setLine line
    runInBrackets e body (← redirections.mapM (targetOf e)) isTested isLast
  | .background line body redirections =>
    setLine line
    runInBackground e body (← redirections.mapM (targetOf e))
  | .redirected line body redirections =>
    setLine line
    redirected e (← redirections.mapM (targetOf e)) (e.run body isTested false)
  | .repeatWhile wanted condition body =>
    repeatWhile e wanted isTested condition body (← get).scene.system.steps 0
  | .forEach line name words body =>
    setLine line
    let values := (← words.mapM (fields e)).flatten
    if values = [] then setStatus 0 else forEach e isTested name body values
  | .choose condition whenTrue whenFalse =>
    e.run condition true false
    if (← get).status = 0 then e.run whenTrue isTested isLast
    else match whenFalse with
      | some other => e.run other isTested isLast
      | none => setStatus 0
  | .select line subject cases =>
    setLine line
    runCase e (← text e subject) isTested isLast cases
  | .define name line body =>
    modify fun sh => { sh with
      functions := (name, line, body) :: sh.functions.filter (·.1 != name) }
    setStatus 0

/-- Runs a command, with the traps of the signals that arrive. -/
def runCommand (e : Engine) (c : Command) (isTested isLast : Bool) : Sh Unit := do
  attend
  runTraps e
  if ← hasOption 'n' then return
  runForm e c isTested isLast
  attend
  runTraps e
  if counts c && !isTested && (← get).status ≠ 0 then
    if ← hasOption 'e' then throw .leave

end AppVersions.Machine.Script.Sh
