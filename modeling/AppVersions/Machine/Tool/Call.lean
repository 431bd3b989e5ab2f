-- How a tool is called: its name and arguments, the options among them, and how it complains.
import AppVersions.Machine.System
import AppVersions.Machine.Tool.Quoting

namespace AppVersions.Machine.Tool

/-! ## Calls -/

/-- A call of a tool; `run` runs another program, which signals may reach at given times, and waits
for it. -/
structure Call where
  name : Bytes
  arguments : List Bytes
  run : List (Nat × Signal) → List Bytes → Act (Except IoError WaitStatus)

end AppVersions.Machine.Tool

namespace AppVersions.Machine

/-- A tool: what it does, and the status that it ends with. -/
abbrev Tool := Tool.Call → Act Nat

end AppVersions.Machine

namespace AppVersions.Machine.Tool

/-! ## Surroundings -/

/-- The number that a status is to others. -/
def codeOf (w : WaitStatus) : Nat :=
  match w.code with
  | some n => n.toInt.toNat
  | none => 128 + w.raw % 128

def binding? (name : String) : Act (Option Bytes) :=
  return (← Act.process).environment.lookup name.toList

/-- Whether texts may hold more than the ASCII characters. -/
def knowsUnicode : Act Bool := do
  let names := ["LC_ALL", "LC_CTYPE", "LANG"]
  let values ← names.filterMapM fun name => return (← binding? name).filter (· ≠ [])
  return values.head?.any fun s => s.drop (s.length - 5) == "UTF-8".toList

/-- How texts are put between the quotes that the environment asks for. -/
def quoting : Act (Bytes → Bytes) := return Quoting.forReaders (← knowsUnicode)

def quoted (s : Bytes) : Act Bytes := return (← quoting) s

/-- The name of a file between the quotes that a shell would want. -/
def shellQuoted (s : Bytes) : Act Bytes := return Quoting.forShell (← knowsUnicode) s

/-- The name of a file in a complaint, with quotes only where a shell would want them. -/
def fileText (s : Bytes) : Act Bytes := return Quoting.ofFile (← knowsUnicode) s

namespace Call

/-! ## Complaints -/

def complain (c : Call) (text : Bytes) : Act Unit :=
  Act.complain (c.name ++ ": ".toList ++ text ++ ['\n'])

/-- Complains about a file. -/
def blame (c : Call) (file : Bytes) (e : IoError) : Act Unit := do
  c.complain ((← fileText file) ++ ": ".toList ++ e.reason.toList)

/-- Points to the help. -/
def pointToHelp (c : Call) (status : Nat) : Act Nat := do
  Act.complain ("Try '".toList ++ c.name ++ " --help' for more information.\n".toList)
  return status

/-- Complains about the call, and points to the help. -/
def misuse (c : Call) (text : Bytes) (status : Nat) : Act Nat := do
  c.complain text
  c.pointToHelp status

/-- Writes all output of a tool at once. -/
def emit (c : Call) (s : Bytes) : Act Nat := do
  if s = [] then return 0
  match ← Act.write 1 s with
  | none => return 0
  | some e =>
    c.complain ("write error: ".toList ++ e.reason.toList)
    return 1

/-- Writes all output, with the status that the tool has earned otherwise. -/
def emitThen (c : Call) (s : Bytes) (status : Nat) : Act Nat := return max (← c.emit s) status

/-! ## Options -/

/-- The options of a call in their order, each with its value, and the other arguments. -/
structure Given where
  options : List (String × Bytes) := []
  others : List Bytes := []

namespace Given

def has (g : Given) (names : List String) : Bool := g.options.any fun (n, _) => names.contains n

/-- The value of the last one of some options. -/
def value? (g : Given) (names : List String) : Option Bytes :=
  (g.options.reverse.find? fun (n, _) => names.contains n).map (·.2)

/-- The values of an option, or the first other argument in their place, and the arguments that are
left. -/
def valuesOrFirst (g : Given) (name : String) : List Bytes × List Bytes :=
  let given := g.options.filterMap fun (n, v) => if n = name then some v else none
  if given = [] then (g.others.take 1, g.others.drop 1) else (given, g.others)

end Given

/-- The options that a tool knows: letters alone, letters with values, and long names with the
letters that they stand for. -/
structure Options where
  flags : String := ""
  valued : String := ""
  long : List (String × String) := []

/-- Why options cannot be read. -/
inductive OptionFault
  | unknown (c : Char)
  | unknownLong (s : Bytes)
  | valueMissing (c : Char)
  | valueMissingLong (s : Bytes)

def OptionFault.message : OptionFault → Bytes
  | .unknown c => "invalid option -- '".toList ++ [c, '\x27']
  | .unknownLong s => "unrecognized option '".toList ++ s ++ ['\x27']
  | .valueMissing c => "option requires an argument -- '".toList ++ [c, '\x27']
  | .valueMissingLong s => "option '".toList ++ s ++ "' requires an argument".toList

/-- The letters of one argument; the value of the last one may be the next argument. -/
def letters (o : Options) :
    Bytes → List Bytes → Except OptionFault (List (String × Bytes) × List Bytes)
  | [], rest => .ok ([], rest)
  | c :: cs, rest =>
    let name := String.singleton c
    if o.flags.toList.contains c then do
      let (found, rest) ← letters o cs rest
      return ((name, []) :: found, rest)
    else if o.valued.toList.contains c then
      match cs, rest with
      | [], [] => .error (.valueMissing c)
      | [], v :: rest => .ok ([(name, v)], rest)
      | cs, rest => .ok ([(name, cs)], rest)
    else .error (.unknown c)

/-- Reads the arguments; options may stand anywhere unless `inFront` holds. -/
def readOptions (o : Options) (inFront : Bool) : Nat → List Bytes → Except OptionFault Given
  | 0, rest => .ok { others := rest }
  | _, [] => .ok {}
  | n + 1, arg :: rest =>
    match arg with
    | ['-', '-'] => .ok { others := rest }
    | '-' :: '-' :: body =>
      let name := body.takeWhile (· != '=')
      let value? : Option Bytes :=
        if name.length = body.length then none else some (body.drop (name.length + 1))
      match o.long.find? fun (long, _) => name.isPrefixOf long.toList with
      | none => .error (.unknownLong ('-' :: '-' :: name))
      | some (long, letter) =>
        let takes := o.valued.toList.any fun c => String.singleton c == letter
        match takes, value?, rest with
        | false, _, rest => do
          let g ← readOptions o inFront n rest
          return { g with options := (letter, value?.getD []) :: g.options }
        | true, some v, rest => do
          let g ← readOptions o inFront n rest
          return { g with options := (letter, v) :: g.options }
        | true, none, v :: rest => do
          let g ← readOptions o inFront n rest
          return { g with options := (letter, v) :: g.options }
        | true, none, [] => .error (.valueMissingLong ("--".toList ++ long.toList))
    | '-' :: c :: cs => do
      let (found, rest) ← letters o (c :: cs) rest
      let g ← readOptions o inFront n rest
      return { g with options := found ++ g.options }
    | arg =>
      if inFront then .ok { others := arg :: rest }
      else do
        let g ← readOptions o inFront n rest
        return { g with others := arg :: g.others }

/-- Runs a tool on its options, or says what is wrong with them. -/
def withOptions (c : Call) (o : Options) (status : Nat) (inFront : Bool) (k : Given → Act Nat)
    : Act Nat := do
  match readOptions o inFront (c.arguments.length + 1) c.arguments with
  | .ok g => k g
  | .error e => c.misuse e.message status

/-! ## Input -/

/-- Reads a named file, or the standard input for a dash. -/
def readInput (file : Bytes) : Act (Except IoError Bytes) :=
  if file = ['-'] then Act.readAll 0 else Act.readPath ⟨Bytes.text file⟩

/-- The inputs of a tool that reads the standard input unless files are named. -/
def inputs (files : List Bytes) : List Bytes := if files = [] then [['-']] else files

/-- Goes through inputs and writes what `f` makes of each; a file that cannot be read is complained
about, and makes the status 1. -/
def throughInputs (c : Call) (files : List Bytes) (complaint : Bytes → IoError → Act Unit)
    (f : Bytes → Bytes) : Act Nat := do
  let mut status := 0
  for file in inputs files do
    match ← readInput file with
    | .ok s => status := max status (← c.emit (f s))
    | .error e =>
      complaint file e
      status := 1
  return status

end Call

/-! ## Numbers -/

/-- A decimal number without a sign. -/
def natural? (s : Bytes) : Option Nat :=
  if s ≠ [] ∧ s.all Char.isDigit then some (Nat.ofDigitChars 10 s 0) else none

def integer? (s : Bytes) : Option Int :=
  match s with
  | '-' :: ds => (natural? ds).map fun n => -(n : Int)
  | '+' :: ds => (natural? ds).map Int.ofNat
  | ds => (natural? ds).map Int.ofNat

/-- A number of bytes or lines, with a letter for thousands behind it. -/
def size? (s : Bytes) : Option Nat :=
  let ds := s.takeWhile Char.isDigit
  let factor? : Option Nat := match s.drop ds.length with
    | [] => some 1
    | ['b'] => some 512
    | ['k'] | ['K'] => some 1024
    | ['k', 'B'] | ['K', 'B'] => some 1000
    | ['M'] => some 1048576
    | ['M', 'B'] => some 1000000
    | _ => none
  match natural? ds, factor? with
  | some n, some f => some (n * f)
  | _, _ => none

/-- A power of ten behind its mark; a text without a mark stands for the power of none. -/
def power? (s : Bytes) : Option Int :=
  let number? (ds : Bytes) : Option Nat :=
    if ds ≠ [] ∧ ds.all Char.isDigit then some (min 4096 (Nat.ofDigitChars 10 ds 0)) else none
  match s with
  | [] => some 0
  | c :: rest =>
    if c ≠ 'e' ∧ c ≠ 'E' then none
    else match rest with
      | '-' :: ds => (number? ds).map fun n => -(n : Int)
      | '+' :: ds | ds => (number? ds).map Int.ofNat

/-- A decimal fraction as digits and the number of those behind the point. A power of ten moves the
point. -/
def fraction? (s : Bytes) : Option (Int × Nat) :=
  let (isNegative, body) := match s with
    | '-' :: rest => (true, rest)
    | '+' :: rest => (false, rest)
    | rest => (false, rest)
  let whole := body.takeWhile Char.isDigit
  let (behind, rest) := match body.drop whole.length with
    | '.' :: ds => (ds.takeWhile Char.isDigit, ds.dropWhile Char.isDigit)
    | rest => ([], rest)
  match power? rest with
  | some power =>
    if whole = [] ∧ behind = [] then none
    else
      let places : Int := behind.length - power
      let n : Int := Nat.ofDigitChars 10 (whole ++ behind) 0 * Nat.pow 10 (-places).toNat
      some (if isNegative then -n else n, places.toNat)
  | none => none

end AppVersions.Machine.Tool
