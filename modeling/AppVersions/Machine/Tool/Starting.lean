-- Tools that run other programs, with another environment, for a limited time or once for each of
-- many arguments, and small ones that tell about the process that they run in.
import AppVersions.Machine.Tool.Entries
import AppVersions.Machine.Tool.Format

namespace AppVersions.Machine.Tool

/-! ## Other programs -/

/-- What a program leaves as a status when it cannot be run. -/
def missingStatus (e : IoError) : Nat := if e = .noEntry then 127 else 126

/-- Goes on as another program; if that cannot be run, `explain` says why. -/
def become (c : Call) (command : List Bytes) (explain : Bytes → IoError → Act Unit) : Act Nat := do
  match ← c.run [] command with
  | .ok w => Act.finish w
  | .error e =>
    explain (command.headD []) e
    return missingStatus e

/-! ## Environments -/

/-- An environment with one more variable; a known one keeps its place. -/
def withVariable (environment : List (Bytes × Bytes)) (name value : Bytes) : List (Bytes × Bytes) :=
  if environment.any (·.1 == name) then
    environment.map fun (n, v) => if n = name then (n, value) else (n, v)
  else environment ++ [(name, value)]

def withoutVariable (environment : List (Bytes × Bytes)) (name : Bytes) : List (Bytes × Bytes) :=
  environment.filter (·.1 != name)

/-- The lines that list an environment. -/
def environmentText (separator : Char) (environment : List (Bytes × Bytes)) : Bytes :=
  environment.flatMap fun (name, value) => name ++ '=' :: value ++ [separator]

/-! ## Texts that hold a command -/

/-- Where in a text that is split into words the next character stands. -/
inductive Inside
  | nothing
  | single
  | double
  deriving DecidableEq

/-- Words being split off. `current` is the present word, the last character first, if one has
begun. -/
structure Cutting where
  done : List Bytes := []
  current : Option Bytes := none

namespace Cutting

def begin (s : Cutting) : Cutting := { s with current := some (s.current.getD []) }

def push (s : Cutting) (cs : Bytes) : Cutting :=
  { s with current := some (cs.reverse ++ s.current.getD []) }

def endWord (s : Cutting) : Cutting :=
  match s.current with
  | some w => { done := w.reverse :: s.done }
  | none => s

def words (s : Cutting) : List Bytes := s.endWord.done.reverse

end Cutting

/-- The characters that letters behind a backslash stand for. -/
def cuttingEscapes : List (Char × Char) :=
  [('"', '"'), ('#', '#'), ('$', '$'), ('\x27', '\x27'), ('\\', '\\'), ('f', '\x0c'), ('n', '\n'),
    ('r', '\r'), ('t', '\t'), ('v', '\x0b')]

/-- Splits a text into words, with quotes, escapes and the values of variables in braces. -/
def wordsOf (values : Bytes → Option Bytes) :
    Nat → Inside → Cutting → Bytes → Except Bytes (List Bytes)
  | 0, _, s, _ => .ok s.words
  | _, place, s, [] =>
    if place = .nothing then .ok s.words else .error "no terminating quote in -S string".toList
  | n + 1, place, s, c :: rest =>
    if c = '\x27' ∧ place ≠ .double then
      wordsOf values n (if place = .single then .nothing else .single) s.begin rest
    else if c = '"' ∧ place ≠ .single then
      wordsOf values n (if place = .double then .nothing else .double) s.begin rest
    else if Script.isSpace c ∧ place = .nothing then wordsOf values n place s.endWord rest
    else if c = '#' ∧ s.current.isNone ∧ place = .nothing then .ok s.words
    else if c = '\\' ∧ (place ≠ .single ∨ rest.head? = some '\\' ∨ rest.head? = some '\x27') then
      match rest with
      | [] => .error "invalid backslash at end of string in -S".toList
      | '_' :: rest =>
        if place = .double then wordsOf values n place (s.push [' ']) rest
        else wordsOf values n place s.endWord rest
      | 'c' :: _ =>
        if place = .double then
          .error "'\\c' must not appear in double-quoted -S string".toList
        else .ok s.words
      | e :: rest =>
        match cuttingEscapes.lookup e with
        | some c => wordsOf values n place (s.push [c]) rest
        | none => .error ("invalid sequence '\\".toList ++ e :: "' in -S".toList)
    else if c = '$' ∧ place ≠ .single then
      let name := (rest.drop 1).takeWhile Script.isNameChar
      let isVariable := rest.head? = some '\x7b' ∧ Script.isName name ∧
        rest[name.length + 1]? = some '\x7d'
      if isVariable then
        let s := match values name with
          | some v => s.push v
          | none => s
        wordsOf values n place s (rest.drop (name.length + 2))
      else
        .error ("only $\x7bVARNAME\x7d expansion is supported, error at: ".toList ++ c :: rest)
    else wordsOf values n place (s.push [c]) rest

/-! ## Changed environments -/

/-- What the options of `env` ask for. -/
structure Surroundings where
  isEmpty : Bool := false
  removed : List Bytes := []
  directory : Option Bytes := none
  separator : Char := '\n'
  isTold : Bool := false

/-- Why the options of `env` make no sense. -/
inductive SurroundingsFault
  | option (why : Call.OptionFault)
  | text (why : Bytes)

namespace SurroundingsFault

def message : SurroundingsFault → Bytes
  | .option why => why.message
  | .text why => why

/-- Whether somebody took a line with many words for a list of words. -/
def asksForSplitting : SurroundingsFault → Bool
  | .option (.unknown c) => Script.isSpace c
  | _ => false

end SurroundingsFault

def splittingHint : Bytes := "use -[v]S to pass options in shebang lines".toList

/-- The long options of `env` and the letters that they stand for. -/
def surroundingsNames : List (String × Char) :=
  [("ignore-environment", 'i'), ("null", '0'), ("debug", 'v'), ("unset", 'u'), ("chdir", 'C'),
    ("split-string", 'S')]

/-- Reads the options, of which one may hold more words; those take its place. -/
def surroundings (values : Bytes → Option Bytes) :
    Nat → Surroundings → List Bytes → Except SurroundingsFault (Surroundings × List Bytes)
  | 0, s, rest => .ok (s, rest)
  | _, s, [] => .ok (s, [])
  | n + 1, s, arg :: rest =>
    match arg with
    | ['-', '-'] => .ok (s, rest)
    | ['-'] => surroundings values n { s with isEmpty := true } rest
    | '-' :: '-' :: body =>
      let long := body.takeWhile (· != '=')
      match surroundingsNames.find? fun (name, _) => long.isPrefixOf name.toList, rest with
      | none, _ => .error (.option (.unknownLong ('-' :: '-' :: long)))
      | some (name, letter), rest =>
        if ['i', '0', 'v'].contains letter then surroundings values n s (['-', letter] :: rest)
        else if long.length < body.length then
          surroundings values n s (['-', letter] :: body.drop (long.length + 1) :: rest)
        else if rest = [] then .error (.option (.valueMissingLong ("--".toList ++ name.toList)))
        else surroundings values n s (['-', letter] :: rest)
    | '-' :: c :: cs =>
      let others := if cs = [] then rest else ('-' :: cs) :: rest
      if c = 'i' then surroundings values n { s with isEmpty := true } others
      else if c = '0' then surroundings values n { s with separator := '\x00' } others
      else if c = 'v' then surroundings values n { s with isTold := true } others
      else if ¬['u', 'C', 'S'].contains c then .error (.option (.unknown c))
      else
        match if cs = [] then rest else cs :: rest with
        | [] => .error (.option (.valueMissing c))
        | v :: rest =>
          if c = 'u' then surroundings values n { s with removed := s.removed ++ [v] } rest
          else if c = 'C' then surroundings values n { s with directory := some v } rest
          else
            match wordsOf values (v.length + 1) .nothing {} v with
            | .ok words => surroundings values n s (words ++ rest)
            | .error why => .error (.text why)
    | arg => .ok (s, arg :: rest)

/-- Says which program is about to run. -/
def tellCommand (quote : Bytes → Bytes) (command : List Bytes) : Act Unit := do
  Act.complain ("executing: ".toList ++ command.headD [] ++ ['\n'])
  let args := command.zipIdx.flatMap fun (s, k) =>
    "   arg[".toList ++ Bytes.ofNat k ++ "]= ".toList ++ quote s ++ ['\n']
  Act.complain args

def env : Tool := fun c => do
  let quote ← quoting
  let given := (← Act.process).environment
  let bound := 4 * (c.arguments.flatten.length + c.arguments.length) + 4
  match surroundings (fun name => given.lookup name) bound {} c.arguments with
  | .error why =>
    c.complain why.message
    if why.asksForSplitting then c.complain splittingHint
    match why with
    | .option _ => c.pointToHelp 125
    | .text _ => return 125
  | .ok (s, rest) =>
    let isSetting (w : Bytes) : Bool := w.contains '='
    let settings := (rest.takeWhile isSetting).map fun w =>
      let name := w.takeWhile (· != '=')
      (name, w.drop (name.length + 1))
    let command := rest.dropWhile isSetting
    match s.removed.find? fun name => name = [] ∨ name.contains '=' with
    | some name =>
      c.complain ("cannot unset ".toList ++ quote name ++ ": Invalid argument".toList)
      return 125
    | none =>
      let kept := if s.isEmpty then [] else s.removed.foldl withoutVariable given
      let environment := settings.foldl (fun e (name, v) => withVariable e name v) kept
      Act.changeProcess fun p => { p with environment }
      if command = [] then
        if s.directory.isSome then c.misuse "must specify command with --chdir (-C)".toList 125
        else c.emit (environmentText s.separator environment)
      else if s.separator ≠ '\n' then c.misuse "cannot specify --null (-0) with command".toList 125
      else
        if let some d := s.directory then
          let t ← Act.tree
          match t.locate (← Act.here) (pathOf d) with
          | .ok place =>
            if t.isDirectoryAt place then Act.changeProcess fun p => { p with here := place }
            else
              c.complain ("cannot change directory to ".toList ++ quote d ++
                ": Not a directory".toList)
              return 125
          | .error e =>
            c.complain ("cannot change directory to ".toList ++ quote d ++ ": ".toList ++
              e.reason.toList)
            return 125
        if s.isTold then tellCommand quote command
        become c command fun name e => do
          c.complain (quote name ++ ": ".toList ++ e.reason.toList)
          if e = .noEntry ∧ name.any Script.isSpace then c.complain splittingHint

def printenv : Tool := fun c =>
  c.withOptions { flags := "0", long := [("null", "0")] } 2 true fun g => do
  let separator := if g.has ["0"] then '\x00' else '\n'
  let environment := (← Act.process).environment
  if g.others = [] then c.emit (environmentText separator environment)
  else
    let found := g.others.filterMap fun name => environment.lookup name
    c.emitThen (found.flatMap (· ++ [separator])) (if found.length = g.others.length then 0 else 1)

/-! ## Time -/

/-- Durations that are longer count as this one, in milliseconds. -/
def endlessMs : Nat := 1000000000000

/-- A duration in milliseconds: a number with a letter for its unit. -/
def duration? (s : Bytes) : Option Nat :=
  match quantity? s with
  | some (q, rest) =>
    let unit? : Option Nat := match rest with
      | [] | ['s'] => some 1
      | ['m'] => some 60
      | ['h'] => some 3600
      | ['d'] => some 86400
      | _ => none
    match q, unit? with
    | .quotient isNegative num den, some unit =>
      if isNegative ∧ num ≠ 0 then none
      else some (min endlessMs ((num * unit * 1000 + den - 1) / den))
    | .infinite false, some _ => some endlessMs
    | _, _ => none
  | none => none

def sleep : Tool := fun c => c.withOptions {} 1 true fun g => do
  let quote ← quoting
  if g.others = [] then c.misuse "missing operand".toList 1
  else
    let wrong := g.others.filter fun s => (duration? s).isNone
    if wrong ≠ [] then
      for s in wrong do c.complain ("invalid time interval ".toList ++ quote s)
      c.pointToHelp 1
    else
      Act.sleep ((g.others.filterMap duration?).foldl (· + ·) 0)
      return 0

/-- A signal by its name or number. -/
def signal? (s : Bytes) : Option Signal :=
  match natural? s with
  | some n => if n ≤ Signal.last then some n else none
  | none => Signal.ofName? s

def timeoutOptions : Call.Options where
  flags := "vfp"
  valued := "ks"
  long := [("foreground", "f"), ("preserve-status", "p"), ("kill-after", "k"), ("signal", "s"),
    ("verbose", "v")]

def timeout : Tool := fun c => c.withOptions timeoutOptions 125 true fun g => do
  let quote ← quoting
  let badTime (s : Bytes) : Act Nat := c.misuse ("invalid time interval ".toList ++ quote s) 125
  match g.others with
  | limit :: name :: rest =>
    let killAfter := g.value? ["k"]
    let wanted := (g.value? ["s"]).getD "TERM".toList
    match killAfter.map duration?, signal? wanted, duration? limit with
    | some none, _, _ => badTime (killAfter.getD [])
    | _, none, _ => c.misuse (quote ((g.value? ["s"]).getD []) ++ ": invalid signal".toList) 125
    | _, _, none => badTime limit
    | after, some signal, some ms =>
      let start := (← Act.process).clock
      let second := match after with
        | some (some k) => if k = 0 then [] else [(start + ms + k, (9 : Signal))]
        | _ => []
      let due := if ms = 0 then [] else (start + ms, signal) :: second
      match ← c.run due (name :: rest) with
      | .error e =>
        c.complain ("failed to run command ".toList ++ quote name ++ ": ".toList ++ e.reason.toList)
        return missingStatus e
      | .ok w =>
        let isLate := ms ≠ 0 ∧ start + ms ≤ (← Act.process).clock
        if isLate ∧ g.has ["v"] then
          c.complain ("sending signal ".toList ++ (Signal.name signal).toList ++
            " to command ".toList ++ quote name)
        let n := w.raw % 128
        if isLate ∧ n = 9 then Act.die 9
        else if isLate ∧ ¬g.has ["p"] then return 124
        else if n ≠ 0 ∧ ¬isLate then Act.finish w
        else return codeOf w
  | _ => c.pointToHelp 125

/-! ## Many arguments -/

/-- The words of a text with blanks between them; quotes and backslashes keep blanks. -/
def quotedWords : Nat → Inside → Cutting → Bytes → Except Bytes (List Bytes)
  | 0, _, s, _ => .ok s.words
  | _, place, s, [] =>
    match place with
    | .nothing => .ok s.words
    | .single => .error "single".toList
    | .double => .error "double".toList
  | n + 1, place, s, c :: rest =>
    match place with
    | .single =>
      if c = '\x27' then quotedWords n .nothing s rest
      else if c = '\n' then .error "single".toList
      else quotedWords n place (s.push [c]) rest
    | .double =>
      if c = '"' then quotedWords n .nothing s rest
      else if c = '\n' then .error "double".toList
      else quotedWords n place (s.push [c]) rest
    | .nothing =>
      if c = '\x27' then quotedWords n .single s.begin rest
      else if c = '"' then quotedWords n .double s.begin rest
      else if c = '\\' then
        match rest with
        | e :: rest => quotedWords n place (s.push [e]) rest
        | [] => .ok s.words
      else if Script.isSpace c then quotedWords n place s.endWord rest
      else quotedWords n place (s.push [c]) rest

/-- A text with every place of a mark filled. -/
def filled (mark value : Bytes) : Nat → Bytes → Bytes
  | 0, s => s
  | n + 1, s =>
    if mark = [] then s
    else match Bytes.cutAt mark s with
      | some (before, after) => before ++ value ++ filled mark value n after
      | none => s

/-- Parts of at most so many elements. -/
def inParts {α : Type} (size : Nat) : Nat → List α → List (List α)
  | 0, _ | _, [] => []
  | n + 1, xs => xs.take size :: inParts size n (xs.drop size)

/-- Runs commands one after another, until one stops them all. -/
def runAll (c : Call) (isTold : Bool) : Nat → List (List Bytes) → Act Nat
  | status, [] => return status
  | status, command :: rest => do
    let name := command.headD []
    if isTold then Act.complain (Bytes.unwords command ++ ['\n'])
    match ← c.run [] command with
    | .error e =>
      c.complain (name ++ ": ".toList ++ e.reason.toList)
      return missingStatus e
    | .ok w =>
      let n := w.raw % 128
      if n ≠ 0 then
        c.complain (name ++ ": terminated by signal ".toList ++ .ofNat n)
        return 125
      else if codeOf w = 255 then
        c.complain (name ++ ": exited with status 255; aborting".toList)
        return 124
      else runAll c isTold (if codeOf w = 0 then status else 123) rest

def xargsOptions : Call.Options where
  flags := "0rtx"
  valued := "nILdPsE"
  long := [("null", "0"), ("no-run-if-empty", "r"), ("verbose", "t"), ("max-args", "n"),
    ("replace", "I"), ("max-lines", "L"), ("delimiter", "d"), ("max-procs", "P")]

def xargs : Tool := fun c => c.withOptions xargsOptions 1 true fun g => do
  match ← Act.readAll 0 with
  | .error e =>
    c.complain e.reason.toList
    return 1
  | .ok input =>
    let nothing ← Act.newChannel (.device .nothing)
    Act.setFile 0 (some nothing)
    let command := if g.others = [] then ["echo".toList] else g.others
    let separator? : Option Char := if g.has ["0"] then some '\x00'
      else (g.value? ["d"]).bind fun s => if s = "\\n".toList then some '\n' else s.head?
    let byLines := (g.has ["I"] || g.has ["L"]) && separator?.isNone
    let split (s : Bytes) : Except Bytes (List Bytes) := quotedWords (s.length + 1) .nothing {} s
    let items : Except Bytes (List (List Bytes)) := match separator? with
      | some c =>
        let ended := if input.getLast? = some c then input.dropLast else input
        .ok (if input = [] then [] else (ended.splitOn c).map ([·]))
      | none =>
        if g.has ["I"] then
          .ok (((Bytes.lines input).map (·.dropWhile Script.isSpace)).filter (· ≠ []) |>.map ([·]))
        else if byLines then (Bytes.lines input).mapM split |>.map (·.filter (· ≠ []))
        else (split input).map (·.map ([·]))
    match items with
    | .error kind =>
      c.complain ("unmatched ".toList ++ kind ++
        " quote; by default quotes are special to xargs unless you use the -0 option".toList)
      return 1
    | .ok items =>
      let size := ((g.value? ["n"]).orElse fun _ => g.value? ["L"]).bind natural?
      let commands : List (List Bytes) := match g.value? ["I"] with
        | some mark => items.map fun item =>
            command.map fun w => filled mark item.flatten (w.length + 1) w
        | none =>
          if items = [] then if g.has ["r"] then [] else [command]
          else (inParts (size.getD items.length) (items.length + 1) items).map fun part =>
            command ++ part.flatten
      runAll c (g.has ["t"]) 0 commands

/-! ## Manners of running -/

def nohup : Tool := fun c => c.withOptions {} 125 true fun g => do
  if g.others = [] then c.misuse "missing operand".toList 125
  else
    Act.changeProcess fun p => { p with ignored := 1 :: p.ignored }
    become c g.others fun name e =>
      c.complain
        ("failed to run command ".toList ++ '\x27' :: name ++ "': ".toList ++ e.reason.toList)

def nice : Tool := fun c => do
  let quote ← quoting
  let arguments := c.arguments.map fun s => match s with
    | '-' :: ds => if (natural? ds).isSome then "-n".toList ++ ds else s
    | s => s
  let c : Call := { c with arguments }
  c.withOptions { valued := "n", long := [("adjustment", "n")] } 125 true fun g => do
    let start : Act Nat := become c g.others fun name e =>
      c.complain (quote name ++ ": ".toList ++ e.reason.toList)
    match g.value? ["n"] with
    | some v =>
      if (integer? v).isNone then
        c.complain ("invalid adjustment ".toList ++ quote v)
        return 125
      else if g.others = [] then c.misuse "a command must be given with an adjustment".toList 125
      else start
    | none => if g.others = [] then c.emit "0\n".toList else start

/-! ## The process itself -/

def pwd : Tool := fun c => c.withOptions
    { flags := "LP", long := [("logical", "L"), ("physical", "P")] } 1 false fun g => do
  if g.others ≠ [] then c.complain "ignoring non-option arguments".toList
  let here ← Act.here
  let physical := placeBytes here
  let isLogical := (g.options.getLast?).any (·.1 == "L")
  let told ← binding? "PWD"
  let fits ← match told with
    | some s => do
      let steps := s.splitOn '/'
      pure (s.head? == some '/' && !steps.contains ['.'] && !steps.contains ['.', '.'] &&
        match (← Act.tree).locate here (pathOf s) with
        | .ok place => place == here
        | .error _ => false)
    | none => pure false
  c.emit ((if isLogical && fits then told.getD physical else physical) ++ ['\n'])

def unameOptions : Call.Options where
  flags := "asnrvmpio"
  long := [("all", "a"), ("kernel-name", "s"), ("machine", "m"), ("processor", "p"),
    ("hardware-platform", "i"), ("operating-system", "o")]

def uname : Tool := fun c => c.withOptions unameOptions 1 false fun g => do
  match g.others with
  | s :: _ => c.misuse ("extra operand ".toList ++ (← quoted s)) 1
  | [] =>
    let parts := [("s", "Linux"), ("m", "x86_64"), ("p", "x86_64"), ("i", "x86_64"),
      ("o", "GNU/Linux")].filter fun (letter, _) =>
        g.has [letter, "a"] || (g.options.isEmpty && letter == "s")
    c.emit (Bytes.unwords (parts.map fun (_, s) => s.toList) ++ ['\n'])

/-- The files that a name can mean on the search path. -/
def candidates (path name : Bytes) : List Bytes :=
  if name.contains '/' then [name]
  else (path.splitOn ':').map fun d => joinedPath (if d = [] then ['.'] else d) name

def which : Tool := fun c => do
  let isOption (s : Bytes) : Bool := s.head? = some '-' && s.length > 1
  let options := (c.arguments.takeWhile isOption).flatMap List.tail
  let names := c.arguments.dropWhile isOption
  match options.find? fun c => c != 'a' && c != 's' && c != '-' with
  | some o =>
    Act.complain ("Illegal option -".toList ++ [o, '\n'])
    let _ ← c.emit "Usage: /usr/bin/which [-as] args\n".toList
    return 2
  | none =>
    let t ← Act.tree
    let here ← Act.here
    let path := (← binding? "PATH").getD []
    let found := names.map fun name =>
      let there := (candidates path name).filter fun s => t.isExecutable here (pathOf s)
      if options.contains 'a' then there else there.take 1
    let status := if names = [] ∨ found.any List.isEmpty then 1 else 0
    if options.contains 's' then return status
    else c.emitThen (Bytes.ofLines found.flatten) status

end AppVersions.Machine.Tool
