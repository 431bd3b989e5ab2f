-- Routines about signals and about commands that nobody waited for: traps, sending signals,
-- waiting.
import AppVersions.Machine.Script.Asking

namespace AppVersions.Machine.Script.Sh

/-! ## Names of signals -/

/-- A signal by its number, or by its name in any case; the end of the shell may count as one. -/
def signal? (endCounts : Bool) (s : Bytes) : Option Signal :=
  match natural? s with
  | some n => if n ≤ Signal.last then some n else none
  | none =>
    let upper := s.map Char.toUpper
    if endCounts ∧ upper = "EXIT".toList then some 0
    else (Signal.table.find? fun (_, name, _) => name.toList == upper).map (·.1)

def signalName (n : Signal) : Bytes := if n = 0 then "EXIT".toList else (Signal.name n).toList

/-! ## Traps -/

/-- Sets what a signal does, or lets it do what it does to other programs. -/
def setTrap (n : Signal) (action : Option Bytes) : Sh Unit := do
  modify fun sh =>
    let others := sh.traps.filter (·.1 != n)
    { sh with traps := match action with
      | some s => (n, s) :: others
      | none => others }
  if n ≠ 0 then
    Act.changeProcess fun p =>
      let others := p.ignored.filter (· != n)
      { p with ignored := if action = some [] then n :: others else others }

def trapSignals : Routine := fun _ arguments => withoutOptions arguments fun others => do
  match others with
  | [] =>
    let sorted := (← get).traps.mergeSort fun a b => a.1 ≤ b.1
    print (sorted.flatMap fun (n, s) =>
      "trap -- ".toList ++ quoted (s.length + 1) s ++ ' ' :: signalName n ++ ['\n'])
  | first :: rest =>
    let (action, names) := if rest = [] ∨ (natural? first).isSome then (none, others)
      else (if first = ['-'] then none else some first, rest)
    for name in names do
      match signal? true name with
      | some n => setTrap n action
      | none =>
        Act.complain ("trap: ".toList ++ name ++ ": bad trap\n".toList)
        return 1
    return 0

/-! ## Commands in the background -/

/-- The job that a word names by its process or behind a percent sign. -/
def job? (s : Bytes) : Sh (Option Job) := do
  let jobs := (← get).jobs
  match s with
  | '%' :: rest =>
    let found := match natural? rest with
      | some (k + 1) => jobs.reverse[k]?
      | _ => if rest = [] ∨ rest = ['%'] ∨ rest = ['+'] then jobs.head? else none
    match found with
    | some j => return some j
    | none => fail ("No such job: ".toList ++ s)
  | s =>
    let n ← number s
    return jobs.find? (·.number == n)

/-- Changes a job, or forgets it. -/
def putJob (number : Nat) (f : Job → Option Job) : Sh Unit :=
  modify fun sh => { sh with
    jobs := sh.jobs.filterMap fun j => if j.number = number then f j else some j }

/-- Waits until a job has ended. -/
def waitForJob (j : Job) : Sh Unit := do
  Act.changeProcess fun p => { p with clock := max p.clock j.finish }
  attend

def waitForJobs : Routine := fun _ arguments => withoutOptions arguments fun others => do
  if others = [] then
    for j in (← get).jobs do waitForJob j
    modify fun sh => { sh with jobs := sh.jobs.map fun j => { j with isNews := false } }
    return 0
  else
    let mut status := 127
    for s in others do
      match ← job? s with
      | some j =>
        waitForJob j
        if j.isNews then report j.outcome
        putJob j.number fun j => some { j with isNews := false }
        status := statusOf j.outcome
      | none => status := 127
    return status

def listJobs : Routine := fun _ _ => do
  let sh ← get
  let lines := sh.jobs.reverse.zipIdx.flatMap fun (j, k) =>
    let isRunning := sh.scene.process.clock < j.finish
    let state := if isRunning then "Running".toList
      else if statusOf j.outcome = 0 then "Done".toList
      else "Done(".toList ++ Bytes.ofNat (statusOf j.outcome) ++ [')']
    let mark := if k + 1 = sh.jobs.length then '+' else if k + 2 = sh.jobs.length then '-' else ' '
    '[' :: Bytes.ofNat (k + 1) ++ ']' :: ' ' :: mark :: ' ' :: state.rightpad 27 ' ' ++ ['\n']
  modify fun sh => { sh with jobs := sh.jobs.filter fun j => sh.scene.process.clock < j.finish }
  print lines

/-! ## Sending signals -/

/-- Sends a signal to a job: what it would have done later does not happen. -/
def signalJob (n : Signal) (j : Job) : Sh Unit := do
  let now := (← Act.process).clock
  if n = 0 ∨ Signal.isHarmless n ∨ j.finish ≤ now ∨ n = 2 ∨ n = 3 then return
  putJob j.number fun j => some { j with finish := now, outcome := .killed n }
  Act.changeSystem fun s => { s with
    written := s.written.filter fun w =>
      w.time ≤ now || w.process < j.number || j.last < w.process }

/-- Sends a signal to a process; the answer is whether there is one. -/
def send (n : Signal) (target : Nat) : Sh Bool := do
  let sh ← get
  let p := sh.scene.process
  if target = p.number then
    if n ≠ 0 then receive n
    return true
  match sh.jobs.find? (·.number == target) with
  | some j =>
    if !j.isNews then return false
    signalJob n j
    return true
  | none =>
    if target = sh.number ∨ target = p.parent then
      if n ≠ 0 then Act.changeSystem fun s => { s with sent := s.sent ++ [(target, n)] }
      return true
    return false

def killUsage : Bytes :=
  "Usage: kill [-s sigspec | -signum | -sigspec] [pid | job]... or\nkill -l [exitstatus]".toList

/-- Sends a signal to each of some targets. -/
def sendToAll (n : Signal) (targets : List Bytes) : Sh Nat := do
  let mut status := 0
  for s in targets do
    let isThere ← match s with
      | '%' :: _ =>
        match ← job? s with
        | some j => send n j.number
        | none => pure false
      | '-' :: s =>
        let _ ← number s
        pure false
      | s => send n (← number s)
    if !isThere then
      complain "No such process\n".toList
      status := 1
  return status

def sendSignals : Routine := fun _ arguments => do
  match arguments with
  | [] => fail killUsage
  | first :: rest =>
    let direct := match first with
      | '-' :: s => signal? false s
      | _ => none
    match direct with
    | some n => if rest = [] then fail killUsage else sendToAll n rest
    | none => withOptions "l" "s" arguments fun options others => do
      if options.any (·.1 == 'l') then
        match others with
        | [] =>
          print ("0\n".toList ++
            (List.range Signal.last).flatMap fun k => signalName (k + 1) ++ ['\n'])
        | s :: _ =>
          let n ← number s
          let n := if 128 < n then n - 128 else n
          if 0 < n ∧ n ≤ Signal.last then print (signalName n ++ ['\n'])
          else fail ("invalid signal number or exit status: ".toList ++ s)
      else
        let n ← match (options.reverse.find? (·.1 == 's')).map (·.2) with
          | none => pure 15
          | some s =>
            match signal? false s with
            | some n => pure n
            | none => fail ("invalid signal number or name: ".toList ++ s)
        if others = [] then fail killUsage else sendToAll n others

/-- There is no terminal, so that no command can be brought back to one. -/
def resumeJob : Routine := fun _ arguments => do
  match arguments with
  | [] => fail "No current job".toList
  | s :: _ =>
    let _ ← job? s
    fail ("job ".toList ++ s ++ " not created under job control".toList)

end AppVersions.Machine.Script.Sh
