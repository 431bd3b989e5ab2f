-- A machine: a file tree, a current directory and an environment; how it launches processes, and
-- how it answers as a host.
import AppVersions.Host
import AppVersions.Machine.Script.Starting

namespace AppVersions

open Machine

structure Machine where
  tree : FileTree
  here : Place
  environment : Environment
  os : String
  timing : Timing
  invocation : String

namespace Machine

/-! ## Trees -/

/-- The programs that every machine has, by name. -/
def builtins : List (String × Builtin) :=
  [("sh", .shell false), ("dash", .shell false), ("bash", .shell true)] ++
    toolbox.map fun (name, _) => (name, .tool name)

/-- The devices that every machine has, by name. -/
def devices : List (String × Node) :=
  [("null", .device .nothing), ("zero", .device .zeros), ("full", .device .full),
    ("stdin", .device (.numbered 0)), ("stdout", .device (.numbered 1)),
    ("stderr", .device (.numbered 2))]

/-- A tree with nothing but programs, devices, and a directory for everybody. -/
def bareTree : FileTree where
  entries :=
    [([['b', 'i', 'n']], .link ⟨"usr/bin"⟩), (["usr".toList], .directory systemMode),
      (["usr".toList, "bin".toList], .directory systemMode),
      (["dev".toList], .directory systemMode), (["dev".toList, "fd".toList], .directory systemMode),
      (["tmp".toList], .directory 0o777)] ++
    (builtins.map fun (name, b) => (["usr".toList, "bin".toList, name.toList], .program b)) ++
    (devices.map fun (name, n) => (["dev".toList, name.toList], n)) ++
    (List.range 10).map fun k =>
      (["dev".toList, "fd".toList, Nat.toDigits 10 k], .device (.numbered k))

/-- The directories of a search path. -/
def searchPath (s : String) : List Path := (s.toList.splitOn ':').map fun d => ⟨.ofList d⟩

/-! ## Launching -/

/-- The number of the process that launches others. -/
def ownNumber : Nat := 4242

/-- How many steps of work a process and all that it starts may take. -/
def maxSteps : Nat := 3000000

/-- The variables of an environment in the order of their names, each once. -/
def variablesOf (environment : Environment) : List (Bytes × Bytes) :=
  let once := environment.foldr
    (fun (name, value) vs => (name, value) :: vs.filter (·.1 != name)) []
  (once.map fun (name, value) => (Bytes.ofText name, Bytes.ofText value)).mergeSort
    fun a b => a.1.precedes b.1

/-- The scene that a process starts in: nothing to read, and two streams to write to. -/
def sceneOf (m : Machine) (here : Place) (environment : Environment) : Scene where
  system := {
    tree := m.tree
    channels := #[.device .nothing, .stream .stdout, .stream .stderr]
    nextProcess := ownNumber + 2
    steps := maxSteps }
  process := {
    number := ownNumber + 1
    parent := ownNumber
    here
    environment := variablesOf environment
    files := [(0, 0), (1, 1), (2, 2)] }

/-- The child that a process has been, from all that was written on its streams in the course of
time. -/
def childOf (written : List Written) (status : WaitStatus) : Child :=
  let sorted := written.reverse.mergeSort fun a b => a.time ≤ b.time
  let of (stream : OutputStream) : List Fetch :=
    (sorted.filter (·.stream == stream)).map fun w => .bytes (Bytes.toBytes w.bytes)
  { stdout := of .stdout, stderr := of .stderr, status }

/-- Whether a null character stands anywhere in a request. -/
def hasNul (r : SpawnRequest) : Bool :=
  let texts := r.command ++ (r.directory.map Path.text).toList ++
    r.overlay.flatMap fun (name, value) => [name, value]
  texts.any fun s => s.toList.contains '\x00'

/-- The directory that a request runs in. -/
def startPlace (m : Machine) (directory : Option Path) : Except IoError Place := do
  match directory with
  | none => return m.here
  | some d =>
    let place ← m.tree.locate m.here d
    match m.tree.node? place with
    | some (.directory mode) => if mayRun mode then return place else throw .accessDenied
    | _ => throw .noDirectory

/-- Runs a program where it stands, or looks for a bare name on the search path that the process
will have. Only what was looked for may be a script without an interpreter. -/
def executor : Executor := execute Script.shells Script.maxDepth

/-- Launches a process and waits for it; what it changes in the tree stays. -/
def run (m : Machine) (r : SpawnRequest) : Except IoError (Child × Machine) := do
  if r.command = [] then throw (.custom .invalidInput (some "empty command"))
  if hasNul r then throw (.custom .invalidInput (some "nul byte found in provided data"))
  let here ← m.startPlace r.directory
  let command := r.command.map Bytes.ofText
  let name := command.headD []
  let (outcome, scene) := (if name.contains '/' then executor name command
    else executeByName executor command) (m.sceneOf here (r.overlay.atop m.environment))
  let status ← match outcome with
    | .ok outcome => outcome
    | .error status => .ok status
  return (childOf scene.system.written status, { m with tree := scene.system.tree })

def launch (m : Machine) (r : SpawnRequest) : Except IoError Child := (·.1) <$> m.run r

/-! ## Hosts -/

/-- A directory whose first step is a tilde lies in the home directory, if that is known. -/
def atHome (m : Machine) (d : Path) : Path :=
  match d.parts, m.environment.get? "HOME" with
  | .name ['~'] :: rest, some home =>
    if home = "" then d
    else rest.foldl (fun p part => match part with
      | .name s => p.join ⟨.ofList s⟩
      | .up => p.join ⟨".."⟩
      | .here | .root => p) ⟨home⟩
  | _, _ => d

/-- The first file with this name on the search path that may be run. -/
def findProgram (m : Machine) (name : String) : Except LookupFailure Path :=
  match m.environment.get? "PATH" with
  | none => .error .noSearchPath
  | some path =>
    let candidates := (searchPath path).map fun d => (m.atHome d).join ⟨name⟩
    match candidates.find? fun p => m.tree.isFile m.here p && m.tree.isExecutable m.here p with
    | some p => .ok p
    | none => .error .notFound

def host (m : Machine) : Host where
  isDirectory := m.tree.isDirectory m.here
  isFile := m.tree.isFile m.here
  readFile := m.tree.readFile m.here
  findProgram := m.findProgram
  canonical? := m.tree.canonical? m.here
  launch := m.launch
  currentDirectory := some ⟨FileTree.placeText m.here⟩
  os := m.os
  timing := m.timing
  invocation := m.invocation

end Machine

end AppVersions
