-- Routines that decide what runs next, and how a shell as a whole comes to its end.
import AppVersions.Machine.Script.Asking
import AppVersions.Machine.Script.Grammar

namespace AppVersions.Machine.Script.Sh

/-! ## Leaving -/

/-- Leaves loops, as many as asked for or there are, or goes on with their next round. -/
def leaving (stop : Nat → Stop) : Routine := fun _ arguments => do
  let n ← match arguments with
    | s :: _ => do
      let n ← number s
      if n = 0 then fail ("Illegal number: ".toList ++ s)
      pure n
    | [] => pure 1
  let n := min n (← get).loops
  if n = 0 then return 0
  setStatus 0
  throw (stop n)

def leaveLoops : Routine := leaving .leaveLoop

def nextRound : Routine := leaving .nextRound

def leaveFunction : Routine := fun _ arguments => do
  if let s :: _ := arguments then setStatus (← number s)
  throw .leaveFunction

def leaveShell : Routine := fun _ arguments => do
  match arguments, (← get).keptStatus with
  | s :: _, _ => setStatus (← number s)
  | [], some n => setStatus n
  | [], none => pure ()
  throw .leave

/-! ## Texts as scripts -/

def evaluateText (isTested : Bool) : Routine := fun e arguments =>
  withoutOptions arguments fun others => do
    if others = [] then return 0
    e.script (Bytes.unwords others) isTested
    return (← get).status

/-- The file that a name of a script means. -/
def scriptFile (name : Bytes) : Sh Bytes := do
  if name.contains '/' then return name
  let t ← Act.tree
  let here ← Act.here
  let path := (← value? "PATH".toList).getD []
  let candidates := (path.splitOn ':').map fun d => if d = [] then name else d ++ '/' :: name
  let isReadable (s : Bytes) : Bool := match t.find here ⟨Bytes.text s⟩ with
    | .ok n => n.isFile && mayRead n.mode
    | .error _ => false
  match candidates.find? isReadable with
  | some s => return s
  | none => fail (name ++ ": not found".toList)

def runFile : Routine := fun e arguments => withoutOptions arguments fun others => do
  match others with
  | [] => return 0
  | name :: _ =>
    let file ← scriptFile name
    match ← Act.readPath ⟨Bytes.text file⟩ with
    | .error why => failAs (.notOpened false file why)
    | .ok s =>
      modify fun sh => { sh with command := some file }
      match ← attempt (e.script s false) with
      | .ok () | .error .leaveFunction => return (← get).status
      | .error stop => throw stop

/-! ## Traps that run -/

/-- Runs the traps of the signals that have arrived. The status is the same behind them, unless one
leaves with another. -/
def runTraps (e : Engine) : Sh Unit := do
  let sh ← get
  if sh.arrived.isEmpty then return
  modify fun sh => { sh with arrived := [] }
  for n in sh.arrived do
    match sh.traps.lookup n with
    | none | some [] => pure ()
    | some action =>
      let status := (← get).status
      let kept := (← get).keptStatus
      modify fun sh => { sh with keptStatus := kept.orElse fun _ => some status }
      e.script action false
      modify fun sh => { sh with keptStatus := kept, status }

/-- Runs something as all that a shell does: behind it comes the trap for its end. -/
def wholly (e : Engine) (a : Sh Unit) : Sh Unit := do
  match ← attempt a with
  | .error (.ended w) => throw (.ended w)
  | _ =>
    let sh ← get
    match sh.traps.lookup 0 with
    | none | some [] => return
    | some action =>
      setTrapAside
      let r ← attempt (e.script action false)
      match r with
      | .error (.ended w) => throw (.ended w)
      | .error .leave | .error .fail => return
      | _ => setStatus sh.status
where
  /-- The trap for the end runs only once; the status to leave with is the present one. -/
  setTrapAside : Sh Unit :=
    modify fun sh => { sh with
      traps := sh.traps.filter (·.1 != 0)
      keptStatus := some sh.status }

/-! ## Running a text -/

/-- Runs the lines of commands of a text one after the other; the answer is the status of the last
one. `n` bounds the lines, and `isLast` tells that nothing follows the text. -/
def runLines (e : Engine) (isTested isLast : Bool) : Nat → Source → Nat → Sh Nat
  | 0, _, status => return status
  | n + 1, source, status => do
    let sh ← get
    match source.next sh.aliases sh.nextDocument with
    | .error fault =>
      modify fun sh => { sh with line := fault.line }
      fail fault.message.toList
    | .ok (c, source) =>
      modify fun sh => { sh with
        readTo := source.line
        documents := source.documents ++ sh.documents
        nextDocument := source.nextDocument }
      let isFinished := source.isFinished
      let status ← match c with
        | .nothing => pure status
        | c => do
          e.run c isTested (isLast && isFinished)
          pure (← get).status
      if isFinished then return status
      else runLines e isTested isLast n { source with documents := [] } status

/-- Runs a text from its first line on. -/
def runText (e : Engine) (s : Bytes) (isTested isLast : Bool) : Sh Unit := do
  let readTo := (← get).readTo
  let status ← thenAlways (runLines e isTested isLast (s.length + 2) (.ofText s) 0)
    (modify fun sh => { sh with readTo })
  setStatus status

end AppVersions.Machine.Script.Sh
