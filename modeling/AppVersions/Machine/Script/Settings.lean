-- Routines that set things: variables, arguments, options of the shell and aliases.
import AppVersions.Machine.Script.Asking

namespace AppVersions.Machine.Script.Sh

/-! ## Variables -/

/-- The variables of a kind, in the order of their names. -/
def listed (lead : Bytes) (p : Variable → Bool) : Sh Bytes := do
  let found := (← get).bindings.filter fun (_, v) => p v
  let sorted := found.mergeSort fun (a, _) (b, _) => a.precedes b
  return sorted.flatMap fun (name, v) => settingLine lead name v.value

/-- Marks variables, after setting those that come with a value. -/
def marking (lead : String) (p : Variable → Bool) (mark : Variable → Variable) : Routine :=
  fun _ arguments => withOptions "p" "" arguments fun options others => do
    if options ≠ [] ∨ others = [] then print (← listed (lead.toList ++ [' ']) p)
    else
      for s in others do
        let name := s.takeWhile (· != '=')
        if name.length < s.length then setVariable name (s.drop (name.length + 1)) false
        else if !isName name then fail (name ++ ": bad variable name".toList)
        putVariable name (some (mark ((← binding? name).getD {})))
      return 0

def exportVariables : Routine :=
  marking "export" Variable.isExported fun v => { v with isExported := true }

def protectVariables : Routine :=
  marking "readonly" Variable.isReadOnly fun v => { v with isReadOnly := true }

/-- Keeps the present values of variables, to be restored behind the function. -/
def keepVariables : Routine := fun _ arguments => do
  if (← get).saved.isEmpty then fail "not in a function".toList
  for s in arguments do
    let name := s.takeWhile (· != '=')
    if name ≠ ['-'] then
      saveVariable name
      if name.length < s.length then setVariable name (s.drop (name.length + 1)) false
      else if !isName name then fail (name ++ ": bad variable name".toList)
  return 0

def unsetNames : Routine := fun _ arguments =>
  withOptions "vf" "" arguments fun options others => do
  let isFunction := options.getLast?.any (·.1 == 'f')
  for name in others do
    if isFunction then
      modify fun sh => { sh with functions := sh.functions.filter (·.1 != name) }
    else unsetVariable name
  return 0

/-! ## Reading -/

/-- A line with the line ends that a backslash takes away, and whether it came to its end. -/
def readLine (isRaw : Bool) : Nat → Bytes → Sh (Bytes × Bool)
  | 0, before => return (before, false)
  | n + 1, before => do
    match ← Act.readLines 0 1 with
    | .error _ => return (before, false)
    | .ok s =>
      let isEnded := s.getLast? = some '\n'
      let body := (if isEnded then s.dropLast else s).filter (· != '\x00')
      let ending := (body.reverse.takeWhile (· == '\\')).length
      if isEnded ∧ ¬isRaw ∧ ending % 2 = 1 then readLine isRaw n (before ++ body.dropLast)
      else return (before ++ body, isEnded)

/-- The stretches of a line: what stands behind a backslash is not split. -/
def lineStretches : Bytes → List Stretch
  | [] => []
  | '\\' :: c :: rest => ⟨.whole, [.char c true]⟩ :: lineStretches rest
  | ['\\'] => []
  | c :: rest => ⟨.split, [.char c false]⟩ :: lineStretches rest

def joinStretches : List Stretch → List Stretch
  | ⟨.split, a⟩ :: ⟨.split, b⟩ :: rest => joinStretches (⟨.split, a ++ b⟩ :: rest)
  | s :: rest => s :: joinStretches rest
  | [] => []
  termination_by ss => ss.length

def readFields : Routine := fun _ arguments => withOptions "r" "p" arguments fun options names => do
  if names = [] then fail "arg count".toList
  let isRaw := options.any (·.1 == 'r')
  let (line, isEnded) ← readLine isRaw (← get).scene.system.steps []
  let stretches :=
    if isRaw then [⟨.split, Glyph.ofBytes false line⟩] else joinStretches (lineStretches line)
  let fields := (fieldsOf (← separators) (some names.length) stretches).map Glyph.bytes
  for (name, k) in names.zipIdx do setVariable name (fields.getD k []) false
  return if isEnded then 0 else 1

/-! ## Arguments -/

def shiftArguments : Routine := fun _ arguments => do
  let n ← match arguments with
    | s :: _ => number s
    | [] => pure 1
  if (← get).arguments.length < n then fail "can't shift that many".toList
  modify fun sh => { sh with arguments := sh.arguments.drop n, optionIndex := 1, optionOffset := 0 }
  return 0

def setArguments (arguments : List Bytes) : Sh Unit :=
  modify fun sh => { sh with arguments, optionIndex := 1, optionOffset := 0 }

/-- Reads the next option of a script. -/
def nextOption : Routine := fun _ arguments => do
  match arguments with
  | known :: name :: given =>
    let sh ← get
    let words := if given = [] then sh.arguments else given
    let index := if words.length + 1 < sh.optionIndex then 1 else sh.optionIndex
    let offset := if index = sh.optionIndex then sh.optionOffset else 0
    let isQuiet := known.head? = some ':'
    let current := if index ≤ 1 ∨ offset = 0 then [] else (words.getD (index - 2) []).drop offset
    let leave (index offset : Nat) (letter : Char) (status : Nat) : Sh Nat := do
      setVariable "OPTIND".toList (.ofNat index) false
      modify fun sh => { sh with optionIndex := index, optionOffset := offset }
      setVariable name [letter] false
      return status
    let value := "OPTARG".toList
    -- the letters that are left, where the word behind them is, and how far the reading has come
    let start? : Option (Bytes × Nat × Nat) :=
      if current ≠ [] then some (current, index, offset)
      else match words[index - 1]? with
        | some ('-' :: c :: cs) =>
          if c = '-' ∧ cs = [] then none else some (c :: cs, index + 1, 1)
        | _ => none
    match start? with
    | none =>
      let isEnd := current = [] ∧ words[index - 1]? = some ['-', '-']
      leave (if isEnd then index + 1 else index) 0 '?' 1
    | some ([], next, _) => leave next 0 '?' 1
    | some (c :: cs, next, offset) =>
      let going := offset + 1
      match (known.dropWhile (· == ':')).dropWhile (· != c), c with
      | _, ':' | [], _ =>
        if isQuiet then setVariable value [c] false
        else
          Act.complain ("Illegal option -".toList ++ [c, '\n'])
          unsetVariable value
        leave next going '?' 0
      | _ :: ':' :: _, c =>
        if cs ≠ [] then
          setVariable value cs false
          leave next 0 c 0
        else
          match words[next - 1]? with
          | some s =>
            setVariable value s false
            leave (next + 1) 0 c 0
          | none =>
            if isQuiet then
              setVariable value [c] false
              leave next 0 ':' 0
            else
              Act.complain ("No arg for -".toList ++ c :: " option\n".toList)
              unsetVariable value
              leave next 0 '?' 0
      | _, c =>
        setVariable value [] false
        leave next going c 0
  | _ => fail "Usage: getopts optstring var [arg...]".toList

/-! ## Options -/

/-- Sets or clears an option of the shell. -/
def setOption (c : Char) (isOn : Bool) : Sh Unit :=
  modify fun sh =>
    let others := sh.options.filter (· != c)
    { sh with options := if isOn then c :: others else others }

/-- The listing of all options, for people or as commands. -/
def optionListing (forPeople : Bool) : Sh Bytes := do
  let options := (← get).options
  let line (name : String) (isOn : Bool) : Bytes :=
    if forPeople then name.toList.rightpad 16 ' ' ++ (if isOn then "on\n" else "off\n").toList
    else "set ".toList ++ (if isOn then "-o ".toList else "+o ".toList) ++ name.toList ++ ['\n']
  let lines := optionNames.flatMap fun (name, c) => line name (options.contains c)
  return if forPeople then "Current option settings\n".toList ++ lines else lines

/-- Reads options of the shell in front of arguments. `own` are letters with a meaning of their own,
which are only collected. The answer is those, and the arguments; nothing tells that there are to be
none. -/
def readOptions (own : String) : Nat → List Char → List Bytes →
    Sh (List Char × Option (List Bytes))
  | 0, found, rest => return (found, some rest)
  | n + 1, found, rest => do
    match rest with
    | ['-', '-'] :: rest => return (found, if rest = [] then none else some rest)
    | ['-'] :: rest =>
      if own = "" then
        setOption 'x' false
        setOption 'v' false
      return (found, some rest)
    | (c :: cs) :: rest =>
      if c ≠ '-' ∧ c ≠ '+' then return (found, some ((c :: cs) :: rest))
      let isOn := c == '-'
      let mut found := found
      let mut rest := rest
      for d in cs do
        if own.toList.contains d then found := d :: found
        else if d = 'o' then
          match rest with
          | [] => let _ ← print (← optionListing isOn)
          | name :: more =>
            let known :=
              if (← get).isExtended then optionNames ++ extendedOptionNames else optionNames
            match known.lookup (.ofList name) with
            | some d => setOption d isOn
            | none => fail ("Illegal option -o ".toList ++ name)
            rest := more
        else if optionNames.any (·.2 == d) then setOption d isOn
        else fail ("Illegal option ".toList ++ [c, d])
      readOptions own n found rest
    | rest => return (found, some rest)

def setShell : Routine := fun _ arguments => do
  if arguments = [] then print (← listed [] fun v => v.value.isSome)
  else
    match (← readOptions "" (arguments.length + 1) [] arguments).2 with
    | none => setArguments []
    | some [] => pure ()
    | some rest => setArguments rest
    return 0

/-! ## Aliases -/

def aliasLine (name text : Bytes) : Bytes := settingLine [] name (some text)

def defineAliases : Routine := fun _ arguments => do
  if arguments = [] then print ((← get).aliases.flatMap fun (name, text) => aliasLine name text)
  else
    let mut status := 0
    for s in arguments do
      let name := s.takeWhile (· != '=')
      if name ≠ [] ∧ name.length < s.length then
        modify fun sh => { sh with
          aliases := (name, s.drop (name.length + 1)) :: sh.aliases.filter (·.1 != name) }
      else
        match (← get).aliases.lookup s with
        | some text => status := max status (← print (aliasLine s text))
        | none =>
          Act.complain ("alias: ".toList ++ s ++ " not found\n".toList)
          status := 1
    return status

def removeAliases : Routine := fun _ arguments =>
  withOptions "a" "" arguments fun options others => do
  if options ≠ [] then
    modify fun sh => { sh with aliases := [] }
    return 0
  let mut status := 0
  for name in others do
    if ((← get).aliases.lookup name).isSome then
      modify fun sh => { sh with aliases := sh.aliases.filter (·.1 != name) }
    else
      Act.complain ("unalias: ".toList ++ name ++ " not found\n".toList)
      status := 1
  return status

end AppVersions.Machine.Script.Sh
