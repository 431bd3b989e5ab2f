-- A shell: a process with variables, functions, arguments and options, and how it complains, stops
-- and keeps its variables.
import AppVersions.Machine.Script.Complaint
import AppVersions.Machine.Script.Fields
import AppVersions.Machine.Script.Source
import AppVersions.Machine.System

namespace AppVersions.Machine.Script

/-! ## State -/

/-- A variable; one without a value is only marked. -/
structure Variable where
  value : Option Bytes := none
  isExported : Bool := false
  isReadOnly : Bool := false

/-- A command that nobody waits for at first: the numbers of its process and of the last one that it
started, when and how it ends, and whether that is still to be told. -/
structure Job where
  number : Nat
  last : Nat
  finish : Nat
  outcome : WaitStatus
  isNews : Bool := true

/-- A shell. `number` is what it calls itself, which its parts that run apart share. `traps` tell
what a signal runs, under 0 what the end of the shell runs, and nothing for ignored signals;
`arrived` are signals whose traps have yet to run, and `keptStatus` is the status from before the
present trap. `line` is the line of the present command, and `readTo` how far the script has been
read. `saved` are the variables to restore behind each function. Routines read options from the
argument `optionIndex` on, in which `optionOffset` letters have been read; `tracked` are the names
of programs that were found on the search path. -/
structure Shell where
  scene : Scene
  name : Bytes
  arguments : List Bytes
  number : Nat
  isExtended : Bool := false
  bindings : List (Bytes × Variable) := []
  functions : List (Bytes × Nat × Command) := []
  aliases : List (Bytes × Bytes) := []
  options : List Char := []
  traps : List (Signal × Bytes) := []
  arrived : List Signal := []
  keptStatus : Option Nat := none
  directory : Bytes := []
  status : Nat := 0
  outputStatus : Nat := 0
  line : Nat := 0
  readTo : Nat := 1
  command : Option Bytes := none
  jobs : List Job := []
  lastJob : Option Nat := none
  saved : List (List (Bytes × Option Variable)) := []
  documents : List Document := []
  nextDocument : Nat := 0
  loops : Nat := 0
  functionDepth : Nat := 0
  optionIndex : Nat := 1
  optionOffset : Nat := 0
  tracked : List Bytes := []

/-- Why a command does not come to its end. -/
inductive Stop
  | leaveLoop (levels : Nat)
  | nextRound (levels : Nat)
  | leaveFunction
  | leave
  | fail
  | ended (status : WaitStatus)

/-- What a shell does. -/
abbrev Sh := ExceptT Stop (StateM Shell)

namespace Sh

/-- Something that the process of the shell does. -/
def act {α : Type} (a : Act α) : Sh α := fun sh =>
  match a sh.scene with
  | (.ok x, scene) => (.ok x, { sh with scene })
  | (.error status, scene) => (.error (.ended status), { sh with scene })

instance : MonadLift Act Sh := ⟨act⟩

/-- Does something, and something else behind it however it ended. -/
def thenAlways {α : Type} (a : Sh α) (after : Sh Unit) : Sh α := fun sh =>
  let (r, sh) := a sh
  match after sh with
  | (.ok (), sh) => (r, sh)
  | (.error stop, sh) => (.error stop, sh)

/-- Does something, and tells how it ended. -/
def attempt {α : Type} (a : Sh α) : Sh (Except Stop α) := fun sh =>
  let (r, sh) := a sh
  (.ok r, sh)

def setStatus (n : Nat) : Sh Unit := modify fun sh => { sh with status := n }

/-! ## Complaints -/

/-- A line that names the shell and the place in its script. -/
def complain (text : Bytes) : Sh Unit := do
  let sh ← get
  let command := match sh.command with
    | some c => c ++ ": ".toList
    | none => []
  let place := if sh.isExtended then ": line ".toList else ": ".toList
  Act.complain (sh.name ++ place ++ .ofNat sh.line ++ ": ".toList ++ command ++ text ++ ['\n'])

/-- Complains, and stops the command with status 2. -/
def fail {α : Type} (text : Bytes) : Sh α := do
  complain text
  setStatus 2
  throw .fail

/-- Complains in the words of the shell. -/
def complainOf (c : Complaint) : Sh Unit := do complain (c.text (← get).isExtended)

/-- Complains in the words of the shell, and stops the command with the status that it has there. -/
def failAs {α : Type} (c : Complaint) : Sh α := do
  complainOf c
  setStatus (if (← get).isExtended then 1 else 2)
  throw .fail

def hasOption (c : Char) : Sh Bool := return (← get).options.contains c

/-! ## Variables -/

def binding? (name : Bytes) : Sh (Option Variable) := return (← get).bindings.lookup name

def value? (name : Bytes) : Sh (Option Bytes) := return (← binding? name).bind Variable.value

/-- The variables with one of them as it is to be, or without it; a known one keeps its place. -/
def placed (bindings : List (Bytes × Variable)) (name : Bytes) (v : Option Variable) :
    List (Bytes × Variable) :=
  match v with
  | none => bindings.filter (·.1 != name)
  | some v =>
    if bindings.any (·.1 == name) then bindings.map fun (n, w) => (n, if n = name then v else w)
    else bindings ++ [(name, v)]

def putVariable (name : Bytes) (v : Option Variable) : Sh Unit :=
  modify fun sh => { sh with bindings := placed sh.bindings name v }

/-- Gives a variable a value, which a read-only one refuses. -/
def setVariable (name value : Bytes) (exports : Bool) : Sh Unit := do
  if !isName name then fail (name ++ ": bad variable name".toList)
  let sh ← get
  let v := (sh.bindings.lookup name).getD {}
  if v.isReadOnly then failAs (.readOnly name)
  let isExported := v.isExported || exports || sh.options.contains 'a'
  putVariable name (some { v with value := some value, isExported })
  if name = "OPTIND".toList then
    let index := Nat.ofDigitChars 10 (value.takeWhile Char.isDigit) 0
    modify fun sh => { sh with optionIndex := max index 1, optionOffset := 0 }
  if name = "PATH".toList then modify fun sh => { sh with tracked := [] }

def unsetVariable (name : Bytes) : Sh Unit := do
  if !isName name then fail (name ++ ": bad variable name".toList)
  if ((← binding? name).map Variable.isReadOnly).getD false then
    failAs (.readOnly name)
  putVariable name none

/-- Remembers a variable, to be restored behind the function that runs. -/
def saveVariable (name : Bytes) : Sh Unit := do
  let v ← binding? name
  modify fun sh => match sh.saved with
    | frame :: rest =>
      if frame.any (·.1 == name) then sh else { sh with saved := ((name, v) :: frame) :: rest }
    | [] => sh

/-- Runs something whose settings end with it. -/
def withSaved {α : Type} (a : Sh α) : Sh α := fun sh =>
  let (r, sh) := a { sh with saved := [] :: sh.saved }
  match sh.saved with
  | frame :: rest =>
    let bindings := frame.foldl (fun vs (name, v) => placed vs name v) sh.bindings
    (r, { sh with saved := rest, bindings })
  | [] => (r, sh)

/-- The separators of fields. -/
def separators : Sh Bytes := return (← value? "IFS".toList).getD defaultSeparators

/-- How many groups of names there are. -/
def nameGroups : Nat := 39

/-- The group of a name. -/
def nameGroup (name : Bytes) : Nat :=
  (16 * (name.headD '\x00').toNat + (name.map Char.toNat).foldl (· + ·) 0) % nameGroups

/-- What a program gets from the variables, group by group. -/
def environment : Sh (List (Bytes × Bytes)) := do
  let found := (← get).bindings.filterMap fun (name, v) =>
    if v.isExported then v.value.map fun s => (name, s) else none
  return found.mergeSort fun (a, _) (b, _) => nameGroup a ≤ nameGroup b

/-! ## Parameters -/

/-- The options of a shell, with the letters of those that have one. -/
def optionNames : List (String × Char) :=
  [("errexit", 'e'), ("noglob", 'f'), ("ignoreeof", 'I'), ("interactive", 'i'), ("monitor", 'm'),
    ("noexec", 'n'), ("stdin", 's'), ("xtrace", 'x'), ("verbose", 'v'), ("vi", 'V'), ("emacs", 'E'),
    ("noclobber", 'C'), ("allexport", 'a'), ("notify", 'b'), ("nounset", 'u'), ("privileged", 'p'),
    ("nolog", '\x01'), ("debug", '\x02')]

/-- The mark of the option that a pipe fails with any of its parts. -/
def failingPipes : Char := '\x03'

/-- The options that only the extended shell has. -/
def extendedOptionNames : List (String × Char) := [("pipefail", failingPipes)]

/-- The letters of the options that are set. -/
def optionLetters : Sh Bytes := do
  let options := (← get).options
  return (optionNames.map (·.2)).filter fun c => ' ' < c && options.contains c

/-- The arguments as one text. -/
def joinedArguments (separator : Bytes) : Sh Bytes := do
  return separator.intercalate (← get).arguments

/-- The value of a parameter that has one, but for all arguments at once. -/
def parameter? (name : Bytes) : Sh (Option Bytes) := do
  let sh ← get
  match name with
  | ['#'] => return some (.ofNat sh.arguments.length)
  | ['?'] => return some (.ofNat sh.status)
  | ['$'] => return some (.ofNat sh.number)
  | ['!'] => return sh.lastJob.map Bytes.ofNat
  | ['-'] => return some (← optionLetters)
  | ['0'] => return some sh.name
  | c :: _ =>
    if c.isDigit then
      match (digitsOf name) with
      | 0 => return some sh.name
      | n + 1 => return sh.arguments[n]?
    else value? name
  | [] => return none
where
  digitsOf (s : Bytes) : Nat := Nat.ofDigitChars 10 s 0

/-! ## Parts that run apart -/

/-- Runs a part of a shell as a process of its own, and tells how that ended. What it wrote stays,
and the time that it took has passed. -/
def apart (a : Sh Unit) : Sh WaitStatus := fun sh =>
  let number := sh.scene.system.nextProcess
  let process := sh.scene.process.successor number
  let system := { sh.scene.system with nextProcess := number + 1 }
  let (r, after) := a { sh with
    scene := ⟨system, process⟩
    traps := sh.traps.filter fun (n, s) => s == [] && n != 0
    arrived := []
    jobs := [] }
  let status := match r with
    | .error (.ended status) => status
    | _ => .exited after.status
  let process := { sh.scene.process with clock := max process.clock after.scene.process.clock }
  (.ok status, { sh with scene := ⟨after.scene.system, process⟩ })

/-! ## Signals -/

/-- What a signal does when it arrives: its trap has to run, or it is ignored, or the process ends.
-/
def receive (n : Signal) : Sh Unit := do
  let sh ← get
  match if Signal.isUnstoppable n then none else sh.traps.lookup n with
  | some [] => return
  | some _ => if !sh.arrived.contains n then set { sh with arrived := sh.arrived ++ [n] }
  | none =>
    if sh.scene.process.ignored.contains n || Signal.isHarmless n then return
    Act.die n

/-- Receives the signals that have come by now. -/
def attend : Sh Unit := do
  let sh ← get
  let p := sh.scene.process
  let isMine (d : Nat × Signal) : Bool := d.1 == p.number
  let isDue (d : Nat × Signal) : Bool := d.1 ≤ p.clock
  if sh.scene.system.sent.any isMine || p.due.any isDue then
    let found := (p.due.filter isDue).map (·.2) ++ (sh.scene.system.sent.filter isMine).map (·.2)
    Act.changeSystem fun s => { s with sent := s.sent.filter (!isMine ·) }
    Act.changeProcess fun p => { p with due := p.due.filter (!isDue ·) }
    for n in found do receive n

/-! ## Statuses -/

/-- The number that a status is to the shell. -/
def statusOf (w : WaitStatus) : Nat :=
  match w.code with
  | some n => n.toInt.toNat
  | none => 128 + w.raw % 128

/-- Says how a process ended that a signal ended. -/
def report (w : WaitStatus) : Sh Unit := do
  let n := w.raw % 128
  if n ≠ 0 ∧ n ≠ 2 ∧ n ≠ 13 then Act.complain ((Signal.description n).toList ++ ['\n'])

end Sh

end AppVersions.Machine.Script
