-- What processes share and what each has of its own: the file tree, the channels behind numbered
-- files, and the effects through which a process uses them.
import AppVersions.Child
import AppVersions.Machine.Bytes
import AppVersions.Machine.FileTree
import AppVersions.Machine.Signal

namespace AppVersions.Machine

/-! ## Channels -/

/-- What the holder of an open file may do with it. -/
structure Access where
  reads : Bool := false
  writes : Bool := false
  appends : Bool := false
  deriving DecidableEq, Repr

/-- What a numbered file leads to. A pipe keeps its pieces with the last one first and takes only so
many bytes; what is read from a pipe may be `cut` short of what the writer had to say. -/
inductive Channel
  | stream (s : OutputStream)
  | device (d : Device)
  | file (place : Place) (position : Nat) (access : Access)
  | directory
  | pipe (pieces : List Bytes) (room : Nat)
  | source (rest : Bytes) (isCut : Bool)

/-- A piece of output: when and by which process it was written, and on which stream. -/
structure Written where
  time : Nat
  process : Nat
  stream : OutputStream
  bytes : Bytes

/-- What all processes share. Written pieces stand with the last one first; `sent` are signals on
their way to processes that have not seen them yet. `isStarved` tells that somebody read on where a
pipe had been cut, and `isFlooded` that a pipe took no more. -/
structure System where
  tree : FileTree
  channels : Array Channel := #[]
  written : List Written := []
  sent : List (Nat × Signal) := []
  nextProcess : Nat := 4243
  steps : Nat
  isStarved : Bool := false
  isFlooded : Bool := false

/-! ## Processes -/

/-- What a process has of its own. Times are milliseconds; `due` are signals that will arrive, at
the processes that it starts as well. -/
structure Process where
  number : Nat
  parent : Nat
  here : Place
  environment : List (Bytes × Bytes)
  files : List (Nat × Nat)
  mask : Nat := 0o022
  ignored : List Signal := []
  clock : Nat := 0
  due : List (Nat × Signal) := []

/-- The process as a new one that it starts. -/
def Process.successor (p : Process) (number : Nat) : Process :=
  { p with number, parent := p.number }

/-- A process in its system. -/
structure Scene where
  system : System
  process : Process

/-- What a process does: it may end on the way. -/
def Act (α : Type) : Type := Scene → Except WaitStatus α × Scene

namespace Act

@[always_inline]
instance : Monad Act where
  pure a := fun s => (.ok a, s)
  bind x f := fun s =>
    match x s with
    | (.ok a, s) => f a s
    | (.error status, s) => (.error status, s)

/-- Ends the process. -/
def finish {α : Type} (status : WaitStatus) : Act α := fun s => (.error status, s)

def system : Act System := fun s => (.ok s.system, s)

def process : Act Process := fun s => (.ok s.process, s)

def changeSystem (f : System → System) : Act Unit := fun s =>
  (.ok (), { s with system := f s.system })

def changeProcess (f : Process → Process) : Act Unit :=
  fun s => (.ok (), { s with process := f s.process })

def tree : Act FileTree := return (← system).tree

def here : Act Place := return (← process).here

/-- Changes the tree, unless that fails. -/
def changeTree (f : FileTree → Except IoError FileTree) : Act (Option IoError) := do
  match f (← tree) with
  | .ok t =>
    changeSystem fun s => { s with tree := t }
    return none
  | .error e => return some e

/-- Ends a process as a signal does. -/
def die {α : Type} (n : Signal) : Act α := finish (.killed n)

/-- One step of work, of which a system has only so many. -/
def step : Act Unit := do
  match (← system).steps with
  | 0 => die 9
  | n + 1 => changeSystem fun s => { s with steps := n }

/-! ## Numbered files -/

def channelNumber? (n : Nat) : Act (Option Nat) := return (← process).files.lookup n

def channel? (n : Nat) : Act (Option Channel) := do
  match ← channelNumber? n with
  | some k => return (← system).channels[k]?
  | none => return none

def setChannel (k : Nat) (c : Channel) : Act Unit :=
  changeSystem fun s => { s with channels := s.channels.setIfInBounds k c }

/-- A new channel, and its number. -/
def newChannel (c : Channel) : Act Nat := do
  let k := (← system).channels.size
  changeSystem fun s => { s with channels := s.channels.push c }
  return k

/-- Lets a number lead to a channel, or nowhere. -/
def setFile (n : Nat) (k : Option Nat) : Act Unit :=
  changeProcess fun p =>
    let others := p.files.filter (·.1 != n)
    { p with files := match k with
      | some k => (n, k) :: others
      | none => others }

/-! ## Writing -/

/-- The content of a file with bytes at a position; a gap in front of them holds zeros. -/
def overlaid (content : List UInt8) (position : Nat) (bs : List UInt8) : List UInt8 :=
  content.take position ++ List.replicate (position - content.length) 0 ++ bs ++
    content.drop (position + bs.length)

/-- What happens to a process that writes into a pipe which nobody reads. -/
def breakPipe : Act (Option IoError) := do
  if (← process).ignored.contains 13 then return some .brokenPipe else die 13

/-- Writes on a numbered file; the answer is what went wrong. -/
def write (n : Nat) (bs : Bytes) : Act (Option IoError) := do
  let some k ← channelNumber? n | return some .badNumber
  let s ← system
  match s.channels[k]? with
  | some (.stream stream) =>
    let p ← process
    changeSystem fun s => { s with written := ⟨p.clock, p.number, stream, bs⟩ :: s.written }
    return none
  | some (.device .nothing) | some (.device .zeros) => return none
  | some (.device .full) => return some .noSpace
  | some (.file place position access) =>
    if ¬access.writes then return some .badNumber
    match s.tree.node? place with
    | some (.file mode content) =>
      let position := if access.appends then content.length else position
      changeSystem fun s => { s with
        tree := s.tree.put place (.file mode (overlaid content position bs.toBytes)) }
      setChannel k (.file place (position + bs.length) access)
      return none
    | _ => return none
  | some (.pipe pieces room) =>
    if bs.length ≤ room then
      setChannel k (.pipe (bs :: pieces) (room - bs.length))
      return none
    else
      setChannel k (.pipe (bs.take room :: pieces) 0)
      changeSystem fun s => { s with isFlooded := true }
      breakPipe
  | some (.source _ _) | some .directory | some (.device (.numbered _)) | none =>
    return some .badNumber

/-- A text on the standard error, whose loss nobody notices. -/
def complain (s : Bytes) : Act Unit := do
  let _ ← write 2 s

/-! ## Reading -/

/-- How many zeros are as good as no end of them. -/
def manyZeros : Nat := 1048576

/-- What is still to come from a numbered file, and whether more could have followed. -/
def rest (n : Nat) : Act (Except IoError (Bytes × Bool)) := do
  match ← channel? n with
  | none => return .error .badNumber
  | some (.source s isCut) => return .ok (s, isCut)
  | some (.device .zeros) => return .ok (List.replicate manyZeros '\x00', true)
  | some (.device _) => return .ok ([], false)
  | some (.file place position access) =>
    if ¬access.reads then return .error .badNumber
    match (← tree).node? place with
    | some (.file _ content) => return .ok (.ofBytes (content.drop position), false)
    | _ => return .ok ([], false)
  | some .directory => return .error .isDirectory
  | some (.stream _) | some (.pipe _ _) => return .error .badNumber

/-- Moves on in a numbered file by so many bytes; `asks` tells that more was asked for. -/
def advance (n : Nat) (count : Nat) (asks : Bool) : Act Unit := do
  let some k ← channelNumber? n | return
  match (← system).channels[k]? with
  | some (.source s isCut) =>
    setChannel k (.source (s.drop count) isCut)
    if asks && isCut then changeSystem fun s => { s with isStarved := true }
  | some (.file place position access) => setChannel k (.file place (position + count) access)
  | _ => return

/-- All that is still to come. -/
def readAll (n : Nat) : Act (Except IoError Bytes) := do
  match ← rest n with
  | .error e => return .error e
  | .ok (s, _) =>
    advance n s.length true
    return .ok s

/-- At most so many bytes. -/
def readBytes (n count : Nat) : Act (Except IoError Bytes) := do
  match ← rest n with
  | .error e => return .error e
  | .ok (s, _) =>
    let s := s.take count
    advance n s.length (s.length < count)
    return .ok s

/-- The first lines of a text, and how many of the wanted ones it lacks. -/
def firstLines : Nat → Bytes → Bytes × Nat
  | count, s => go count s []
where
  go : Nat → Bytes → Bytes → Bytes × Nat
    | 0, _, done => (done.reverse, 0)
    | count, [], done => (done.reverse, count)
    | count + 1, c :: rest, done =>
      if c = '\n' then go count rest (c :: done) else go (count + 1) rest (c :: done)

/-- At most so many lines, with their line feeds. -/
def readLines (n count : Nat) : Act (Except IoError Bytes) := do
  match ← rest n with
  | .error e => return .error e
  | .ok (s, _) =>
    let (s, missing) := firstLines count s
    advance n s.length (0 < missing)
    return .ok s

/-! ## Opening -/

/-- How a file is opened. -/
structure Demand where
  access : Access
  creates : Bool := false
  truncates : Bool := false

/-- A channel for what stands at a place. -/
def openPlace (place : Place) (d : Demand) : Act (Except IoError Nat) := do
  match (← tree).node? place with
  | none =>
    if ¬d.creates then return .error .noEntry
    let mode := Nat.land 0o666 (0o777 - (← process).mask)
    match ← changeTree (·.create place (.file mode [])) with
    | some e => return .error e
    | none => return .ok (← newChannel (.file place 0 d.access))
  | some (.directory mode) =>
    if d.access.writes || d.creates then return .error .isDirectory
    if ¬mayRead mode then return .error .accessDenied
    return .ok (← newChannel .directory)
  | some (.device (.numbered n)) =>
    match ← channelNumber? n with
    | some k => return .ok k
    | none => return .error .noEntry
  | some (.device x) => return .ok (← newChannel (.device x))
  | some (.program _) =>
    if d.access.writes then return .error .accessDenied
    return .ok (← newChannel (.source [] false))
  | some (.link _) => return .error .tooManyLinks
  | some (.file mode _) =>
    if (d.access.reads && !mayRead mode) || (d.access.writes && !mayWrite mode) then
      return .error .accessDenied
    if d.truncates then
      changeSystem fun s => { s with tree := s.tree.put place (.file mode []) }
    return .ok (← newChannel (.file place 0 d.access))

/-- A channel for what a path names, or for a new file there. -/
def openPath (p : Path) (d : Demand) : Act (Except IoError Nat) := do
  let t ← tree
  let here ← here
  match t.locate here p with
  | .ok place => openPlace place d
  | .error e =>
    if e = .noEntry ∧ d.creates then
      match t.newPlace FileTree.maxLinks here p with
      | .ok place =>
        if place.getLast?.isSome ∧ p.text.endsWith "/" then return .error .isDirectory
        openPlace place d
      | .error e => return .error e
    else return .error e

/-- The whole content of a named file. -/
def readPath (p : Path) : Act (Except IoError Bytes) := do
  match ← openPath p { access := { reads := true } } with
  | .error e => return .error e
  | .ok k =>
    let kept ← channelNumber? 99
    setFile 99 (some k)
    let s ← readAll 99
    setFile 99 kept
    return s

/-! ## Processes that are waited for -/

/-- Runs something as a new process and waits for it. Only its time and what it did to the system
stay behind. -/
def apart (due : List (Nat × Signal)) (a : Act (Except IoError WaitStatus)) :
    Act (Except IoError WaitStatus) := fun s =>
  let number := s.system.nextProcess
  let process := s.process.successor number
  let (r, after) := a ⟨{ s.system with nextProcess := number + 1 },
    { process with due := due ++ process.due }⟩
  let outcome := match r with
    | .ok outcome => outcome
    | .error status => .ok status
  let process := { s.process with clock := max s.process.clock after.process.clock }
  (.ok outcome, ⟨after.system, process⟩)

/-! ## Time -/

/-- Lets time pass. A signal that falls due on the way arrives at its own time, unless the process
ignores it. -/
def sleep (duration : Nat) : Act Unit := do
  let p ← process
  let stop := p.clock + duration
  let arriving := p.due.filter fun (time, n) => time ≤ stop && !p.ignored.contains n
  match arriving.foldl (fun (first : Option (Nat × Signal)) d => match first with
      | some f => if d.1 < f.1 then some d else first
      | none => some d) none with
  | some (time, n) =>
    changeProcess fun p => { p with clock := max p.clock time }
    die n
  | none => changeProcess fun p => { p with clock := stop }

end Act

end AppVersions.Machine
