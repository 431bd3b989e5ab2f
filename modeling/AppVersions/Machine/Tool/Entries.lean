-- Tools that make, move, remove and list the entries of the file tree, and those that take paths
-- apart.
import AppVersions.Machine.Tool.Call

namespace AppVersions.Machine.Tool

/-! ## Paths -/

def pathOf (s : Bytes) : Path := ⟨Bytes.text s⟩

/-- The text of a place. -/
def placeBytes (p : Place) : Bytes := Bytes.ofText (FileTree.placeText p)

/-- A path without slashes at its end. -/
def withoutSlashes (s : Bytes) : Bytes :=
  match (s.reverse.dropWhile (· == '/')).reverse with
  | [] => if s = [] then [] else ['/']
  | s => s

/-- The last name of a path. -/
def lastName (s : Bytes) : Bytes :=
  let s := withoutSlashes s
  if s = ['/'] then s else (s.reverse.takeWhile (· != '/')).reverse

/-- What stands in front of the last name of a path. -/
def directoryName (s : Bytes) : Bytes :=
  let s := withoutSlashes s
  if s = ['/'] then s
  else
    match s.reverse.dropWhile (· != '/') with
    | [] => ['.']
    | rest => withoutSlashes rest.reverse

/-- A name in a directory. -/
def joinedPath (d name : Bytes) : Bytes :=
  if d.getLast? = some '/' then d ++ name else d ++ '/' :: name

def basename : Tool := fun c => c.withOptions { flags := "az", valued := "s" } 1 true fun g => do
  let stripped (name : Bytes) (ending : Bytes) : Bytes :=
    if ending ≠ [] ∧ ending.length < name.length ∧ ending.isSuffixOf name
    then name.take (name.length - ending.length) else name
  let many := g.has ["a", "s"]
  match g.others with
  | [] => c.misuse "missing operand".toList 1
  | names =>
    if many then
      let ending := (g.value? ["s"]).getD []
      c.emit (Bytes.ofLines (names.map fun s => stripped (lastName s) ending))
    else
      match names with
      | [s] => c.emit (lastName s ++ ['\n'])
      | [s, ending] => c.emit (stripped (lastName s) ending ++ ['\n'])
      | _ :: _ :: extra :: _ => c.misuse ("extra operand ".toList ++ (← quoted extra)) 1
      | [] => return 1

def dirname : Tool := fun c => c.withOptions { flags := "z" } 1 false fun g =>
  match g.others with
  | [] => c.misuse "missing operand".toList 1
  | names => c.emit (Bytes.ofLines (names.map directoryName))

def readlink : Tool := fun c => c.withOptions
    { flags := "efmnqsvz", long := [("canonicalize", "f")] } 1 false fun g => do
  match g.others with
  | [] => c.misuse "missing operand".toList 1
  | names =>
    let t ← Act.tree
    let here ← Act.here
    let found? (s : Bytes) : Option Bytes :=
      if g.has ["f", "e", "m"] then
        match t.locate here (pathOf s), g.has ["e"] with
        | .ok p, _ => some (placeBytes p)
        | .error _, true => none
        | .error _, false =>
          match t.newPlace FileTree.maxLinks here (pathOf s) with
          | .ok p => some (placeBytes p)
          | .error _ => none
      else
        match t.entryPlace here (pathOf s) with
        | .ok p => match t.node? p with
          | some (.link target) => some (Bytes.ofText target.text)
          | _ => none
        | .error _ => none
    let found := names.map found?
    let texts := found.filterMap id
    let status := if found.any Option.isNone then 1 else 0
    let out := if g.has ["n"] ∧ texts.length = 1 then texts.flatten else Bytes.ofLines texts
    c.emitThen out status

def realpath : Tool := fun c => c.withOptions
    { flags := "emLPqsz" } 1 false fun g => do
  let mut status := 0
  if g.others = [] then return ← c.misuse "missing operand".toList 1
  for s in g.others do
    let t ← Act.tree
    let here ← Act.here
    let found : Except IoError Place := match t.locate here (pathOf s) with
      | .ok p => .ok p
      | .error e => if g.has ["e"] then .error e else t.newPlace FileTree.maxLinks here (pathOf s)
    match found with
    | .ok p => status := max status (← c.emit (placeBytes p ++ ['\n']))
    | .error e =>
      if !g.has ["q"] then c.blame s e
      status := 1
  return status

/-! ## Directories -/

/-- Makes a directory, and those above it if wanted, where existing ones are fine. -/
def makeDirectory (mode : Nat) (parents : Bool) (s : Bytes) : Act (Option IoError) := do
  let make (s : Bytes) : Act (Option IoError) := do
    let t ← Act.tree
    match t.entryPlace (← Act.here) (pathOf (withoutSlashes s)) with
    | .error e => return some e
    | .ok place =>
      if (t.node? place).isSome then
        return if parents && t.isDirectory (← Act.here) (pathOf s) then none else some .alreadyThere
      Act.changeTree (·.create place (.directory mode))
  if !parents then make s
  else
    let segments := s.splitOn '/'
    let paths := (List.range' 1 segments.length).map fun n => ['/'].intercalate (segments.take n)
    let rec go : List Bytes → Act (Option IoError)
      | [] => return none
      | p :: rest => do
        match ← make p with
        | none => go rest
        | some e => return some e
    go (paths.filter (· ≠ []))

def mkdir : Tool := fun c => c.withOptions
    { flags := "pv", valued := "m", long := [("parents", "p"), ("mode", "m")] } 1 false fun g => do
  let quote ← quoting
  let mask := (← Act.process).mask
  let mode := match g.value? ["m"] with
    | some ds => Nat.ofDigitChars 8 ds 0
    | none => Nat.land 0o777 (0o777 - mask)
  if g.others = [] then return ← c.misuse "missing operand".toList 1
  let mut status := 0
  for s in g.others do
    match ← makeDirectory mode (g.has ["p"]) s with
    | none =>
      if g.has ["v"] then
        let line := c.name ++ ": created directory ".toList ++ (← shellQuoted s) ++ ['\n']
        status := max status (← c.emit line)
    | some e =>
      c.complain ("cannot create directory ".toList ++ quote s ++ ": ".toList ++ e.reason.toList)
      status := 1
  return status

def rmdir : Tool := fun c => c.withOptions { flags := "pv" } 1 false fun g => do
  if g.others = [] then return ← c.misuse "missing operand".toList 1
  let mut status := 0
  for s in g.others do
    let t ← Act.tree
    let here ← Act.here
    let fault : Option IoError ← match t.entryPlace here (pathOf s) with
      | .error e => pure (some e)
      | .ok place =>
        match t.node? place with
        | none => pure (some .noEntry)
        | some (.directory _) =>
          if t.names place ≠ [] then pure (some (.os 39)) else Act.changeTree (·.remove place)
        | some _ => pure (some .noDirectory)
    match fault with
    | none => pure ()
    | some e =>
      c.complain ("failed to remove ".toList ++ (← shellQuoted s) ++ ": ".toList ++ e.reason.toList)
      status := 1
  return status

def rm : Tool := fun c => c.withOptions
    { flags := "dfiIrRv", long := [("force", "f"), ("recursive", "r"), ("verbose", "v")] } 1 false
    fun g => do
  if g.others = [] then
    return ← if g.has ["f"] then pure 0 else c.misuse "missing operand".toList 1
  let mut status := 0
  for s in g.others do
    let t ← Act.tree
    let refuse (e : IoError) : Act Nat := do
      c.complain ("cannot remove ".toList ++ (← shellQuoted s) ++ ": ".toList ++ e.reason.toList)
      return 1
    match t.entryPlace (← Act.here) (pathOf s) with
    | .error e =>
      if !(g.has ["f"] && (e == .noEntry || e == .noDirectory)) then status ← refuse e
    | .ok place =>
      match t.node? place with
      | none => if !g.has ["f"] then status ← refuse .noEntry
      | some n =>
        let name := lastName s
        if n.isDirectory ∧ ¬g.has ["r", "R"] ∧ ¬(g.has ["d"] ∧ t.names place = []) then
          status ← refuse .isDirectory
        else if name = ['.'] ∨ name = ['.', '.'] then
          c.complain ("refusing to remove '.' or '..' directory: skipping ".toList ++
            (← shellQuoted s))
          status := 1
        else
          match ← Act.changeTree (·.remove place) with
          | some e => status ← refuse e
          | none =>
            if g.has ["v"] then
              let what := if n.isDirectory then "removed directory " else "removed "
              let _ ← c.emit (what.toList ++ (← shellQuoted s) ++ ['\n'])
  return status

/-! ## Files -/

def touch : Tool := fun c => c.withOptions
    { flags := "acfhm", valued := "drt" } 1 false fun g => do
  if g.others = [] then return ← c.misuse "missing file operand".toList 1
  let mut status := 0
  for s in g.others do
    let t ← Act.tree
    match t.find (← Act.here) (pathOf s) with
    | .ok _ => pure ()
    | .error _ =>
      if !g.has ["c"] then
        match ← Act.openPath (pathOf s) { access := { writes := true }, creates := true } with
        | .ok _ => pure ()
        | .error e =>
          c.complain ("cannot touch ".toList ++ (← shellQuoted s) ++ ": ".toList ++ e.reason.toList)
          status := 1
  return status

/-- The paths to which sources go: into a directory, or to one other name. -/
def targetsOf (sources : List Bytes) (target : Bytes) (isDirectory : Bool) : List (Bytes × Bytes) :=
  sources.map fun s => (s, if isDirectory then joinedPath target (lastName s) else target)

/-- Sources and a target, or what is missing. -/
def withTargets (c : Call) (g : Call.Given) (what : String)
    (k : List (Bytes × Bytes) → Act Nat) : Act Nat := do
  let (sources, target?) : List Bytes × Option Bytes := match g.value? ["t"], g.others with
    | some t, ss => (ss, some t)
    | none, ss => (ss.dropLast, ss.getLast?)
  match sources, target? with
  | [], none => c.misuse "missing file operand".toList 1
  | [], some s => c.misuse ("missing destination file operand after ".toList ++ (← shellQuoted s)) 1
  | ss, some target =>
    let t ← Act.tree
    let isDirectory := t.isDirectory (← Act.here) (pathOf target) && !g.has ["T"]
    if ss.length > 1 ∧ ¬isDirectory then
      let e : IoError := match t.find (← Act.here) (pathOf target) with
        | .ok _ => .noDirectory
        | .error e => e
      c.complain ("target ".toList ++ (← shellQuoted target) ++ ": ".toList ++ e.reason.toList)
      return 1
    else k (targetsOf ss target isDirectory)
  | _, none => c.misuse (what.toList) 1

def mv : Tool := fun c => c.withOptions { flags := "finuvT", valued := "t" } 1 false fun g =>
  withTargets c g "missing file operand" fun pairs => do
    let mut status := 0
    for (s, target) in pairs do
      let t ← Act.tree
      let here ← Act.here
      match t.entryPlace here (pathOf s), t.entryPlace here (pathOf (withoutSlashes target)) with
      | .ok a, .ok b =>
        match t.node? a, t.node? b with
        | none, _ =>
          c.complain
            ("cannot stat ".toList ++ (← shellQuoted s) ++ ": No such file or directory".toList)
          status := 1
        | some n, other =>
          if a = b then
            c.complain ((← shellQuoted s) ++ " and ".toList ++ (← shellQuoted target) ++
              " are the same file".toList)
            status := 1
          else if n.isDirectory ∧ a.isPrefixOf b then
            c.complain ("cannot move ".toList ++ (← shellQuoted s) ++
              " to a subdirectory of itself, ".toList ++ (← shellQuoted target))
            status := 1
          else if n.isDirectory ∧ other.any (!·.isDirectory) then
            c.complain ("cannot overwrite non-directory ".toList ++ (← shellQuoted target) ++
              " with directory ".toList ++ (← shellQuoted s))
            status := 1
          else
            match ← Act.changeTree (·.move a b) with
            | none => pure ()
            | some e =>
              c.complain ("cannot move ".toList ++ (← shellQuoted s) ++ " to ".toList ++
                (← shellQuoted target) ++ ": ".toList ++ e.reason.toList)
              status := 1
      | .error e, _ =>
        c.complain ("cannot stat ".toList ++ (← shellQuoted s) ++ ": ".toList ++ e.reason.toList)
        status := 1
      | _, .error e =>
        c.complain ("cannot move ".toList ++ (← shellQuoted s) ++ " to ".toList ++
          (← shellQuoted target) ++ ": ".toList ++ e.reason.toList)
        status := 1
    return status

def cp : Tool := fun c => c.withOptions
    { flags := "adfilnpPrRTuvL", valued := "t", long := [("recursive", "r"), ("archive", "a")] } 1
    false fun g =>
  withTargets c g "missing file operand" fun pairs => do
    let deep := g.has ["a", "r", "R"]
    let mut status := 0
    for (s, target) in pairs do
      let t ← Act.tree
      let here ← Act.here
      match t.locate here (pathOf s) with
      | .error e =>
        c.complain ("cannot stat ".toList ++ (← shellQuoted s) ++ ": ".toList ++ e.reason.toList)
        status := 1
      | .ok a =>
        match t.node? a with
        | some (.directory _) =>
          if !deep then
            c.complain ("-r not specified; omitting directory ".toList ++ (← shellQuoted s))
            status := 1
          else
            match t.newPlace FileTree.maxLinks here (pathOf (withoutSlashes target)) with
            | .error e =>
              c.complain ("cannot create directory ".toList ++ (← shellQuoted target) ++
                ": ".toList ++ e.reason.toList)
              status := 1
            | .ok b => Act.changeSystem fun sys => { sys with tree := sys.tree.copy a b }
        | _ =>
          match ← Act.readPath (pathOf s) with
          | .error e =>
            c.complain ("cannot open ".toList ++ (← shellQuoted s) ++ " for reading: ".toList ++
              e.reason.toList)
            status := 1
          | .ok content =>
            let isNew := (t.find here (pathOf target)).toOption.isNone
            match ← Act.openPath (pathOf target)
                { access := { writes := true }, creates := true, truncates := true } with
            | .error e =>
              c.complain ("cannot create regular file ".toList ++ (← shellQuoted target) ++
                ": ".toList ++ e.reason.toList)
              status := 1
            | .ok k =>
              Act.setFile 98 (some k)
              let _ ← Act.write 98 content
              Act.setFile 98 none
              if isNew then
                match t.node? a, (← Act.tree).locate here (pathOf target) with
                | some (.file mode _), .ok b =>
                  let mask := (← Act.process).mask
                  let mode := if g.has ["p", "a"] then mode else Nat.land mode (0o777 - mask)
                  Act.changeSystem fun sys =>
                    { sys with tree := sys.tree.put b (.file mode content.toBytes) }
                | _, _ => pure ()
    return status

def ln : Tool := fun c => c.withOptions
    { flags := "finsTv", valued := "t", long := [("symbolic", "s"), ("force", "f")] } 1 false
    fun g => do
  let given := if g.others.length = 1 then { g with others := g.others ++ [['.']] } else g
  withTargets c given "missing file operand" fun pairs => do
    let soft := g.has ["s"]
    let kind := if soft then "symbolic link ".toList else "hard link ".toList
    let mut status := 0
    for (s, target) in pairs do
      let t ← Act.tree
      let here ← Act.here
      let refuse (e : IoError) : Act Nat := do
        let source := " => ".toList ++ (← shellQuoted s)
        let arrow := if soft || e == .alreadyThere then [] else source
        c.complain ("failed to create ".toList ++ kind ++ (← shellQuoted target) ++ arrow ++
          ": ".toList ++ e.reason.toList)
        return 1
      match t.entryPlace here (pathOf target) with
      | .error e => status ← refuse e
      | .ok place =>
        let old := t.node? place
        if old.isSome ∧ g.has ["f"] then let _ ← Act.changeTree (·.remove place)
        let node? : Option Node := if soft then some (.link (pathOf s))
          else (t.entryPlace here (pathOf s)).toOption.bind t.node?
        match node? with
        | none =>
          c.complain ("failed to access ".toList ++ (← shellQuoted s) ++
            ": No such file or directory".toList)
          status := 1
        | some n =>
          match ← Act.changeTree (·.create place n) with
          | none => pure ()
          | some e => status ← refuse e
    return status

/-! ## Modes -/

/-- The bits that letters of a mode stand for. -/
def modeBits (who what : Bytes) : Nat :=
  let classes := if who = [] ∨ who.contains 'a' then ['u', 'g', 'o'] else who
  let shift (c : Char) : Nat := if c = 'u' then 64 else if c = 'g' then 8 else 1
  let bit (c : Char) : Nat :=
    if c = 'r' then 4 else if c = 'w' then 2 else if c = 'x' ∨ c = 'X' then 1 else 0
  let bits := what.eraseDups.foldl (fun m b => m + bit b) 0
  classes.eraseDups.foldl (fun n w => n + shift w * bits) 0

/-- One clause of a mode, such as `u+x`. Where nobody is named, the mask counts. -/
def clause? (mask : Nat) (s : Bytes) (mode : Nat) : Option Nat :=
  let who := s.takeWhile fun c => "ugoa".toList.contains c
  match s.drop who.length with
  | op :: what =>
    if what.all fun c => "rwxX".toList.contains c then
      let bits := modeBits who what
      let bits := if who = [] then Nat.land bits (0o777 - mask) else bits
      match op with
      | '+' => some (Nat.lor mode bits)
      | '-' => some (mode - Nat.land mode bits)
      | '=' => some (Nat.lor (mode - Nat.land mode (modeBits who "rwx".toList)) bits)
      | _ => none
    else none
  | [] => none

/-- The mode that a text makes of another one. -/
def changedMode? (mask : Nat) (s : Bytes) (mode : Nat) : Option Nat :=
  if s ≠ [] ∧ s.all fun c => '0' ≤ c && c ≤ '7' then some (Nat.ofDigitChars 8 s 0)
  else (s.splitOn ',').foldlM (fun m cl => clause? mask cl m) mode

def chmod : Tool := fun c => do
  let isOption (s : Bytes) : Bool := s = "-R".toList ∨ s = "-v".toList ∨ s = "-f".toList
  let arguments := c.arguments.filter (!isOption ·)
  let deep := c.arguments.contains "-R".toList
  let mask := (← Act.process).mask
  match arguments with
  | [] => c.misuse "missing operand".toList 1
  | [m] => c.misuse ("missing operand after ".toList ++ (← quoted m)) 1
  | m :: files =>
    if (changedMode? mask m 0).isNone then
      return ← c.misuse ("invalid mode: ".toList ++ (← quoted m)) 1
    let mut status := 0
    for s in files do
      let t ← Act.tree
      match t.locate (← Act.here) (pathOf s) with
      | .error e =>
        c.complain ("cannot access ".toList ++ (← shellQuoted s) ++ ": ".toList ++ e.reason.toList)
        status := 1
      | .ok place =>
        let change : Node → Option Node
          | .file mode content => (changedMode? mask m mode).map (.file · content)
          | .directory mode =>
            if mode = systemMode then none else (changedMode? mask m mode).map .directory
          | .link target => some (.link target)
          | _ => none
        let places := if deep then
          (t.entries.map (·.1)).filter place.isPrefixOf else [place]
        for p in places do
          match (t.node? p).bind change with
          | some n => Act.changeSystem fun sys => { sys with tree := sys.tree.put p n }
          | none =>
            c.complain ("changing permissions of ".toList ++ (← shellQuoted s) ++
              ": Operation not permitted".toList)
            status := 1
    return status

/-! ## Lists -/

def ls : Tool := fun c => c.withOptions
    { flags := "1aACdFhLpqrRStlU", valued := "I", long := [("all", "a"), ("almost-all", "A"),
        ("directory", "d"), ("reverse", "r")] } 2 false fun g => do
  let t ← Act.tree
  let here ← Act.here
  let isReverse := g.has ["r"]
  let mark (p : Place) : Bytes :=
    if g.has ["F"] then
      match t.node? p with
      | some (.directory _) => ['/']
      | some (.link _) => ['@']
      | some n => if n.isFile && mayRun n.mode then ['*'] else []
      | none => []
    else if g.has ["p"] then if t.isDirectoryAt p then ['/'] else []
    else []
  let ordered (names : List Bytes) : List Bytes := if isReverse then names.reverse else names
  let listing (place : Place) : Bytes :=
    let names := (t.names place).map fun s => (Bytes.ofText (.ofList s), place ++ [s])
    let names := if g.has ["a", "A"] then names else names.filter (·.1.head? != some '.')
    let own : List (Bytes × Place) := if g.has ["a"] then
      [(['.'], place), (['.', '.'], place.dropLast)] else []
    Bytes.ofLines (ordered ((own ++ names).map fun (s, p) => s ++ mark p))
  let names := if g.others = [] then [['.']] else g.others
  let names := ordered (names.mergeSort Bytes.precedes)
  let mut status := 0
  let mut files : List Bytes := []
  let mut directories : List (Bytes × Place) := []
  for s in names do
    let found := match t.locate here (pathOf s) with
      | .ok p => Except.ok p
      | .error e => match t.entryPlace here (pathOf s) with
        | .ok p => if (t.node? p).isSome then .ok p else .error e
        | .error e => .error e
    match found with
    | .error e =>
      c.complain ("cannot access ".toList ++ (← shellQuoted s) ++ ": ".toList ++ e.reason.toList)
      status := 2
    | .ok p =>
      if t.isDirectoryAt p ∧ ¬g.has ["d"] then
        if (t.node? p).any fun n => !mayRead n.mode then
          c.complain
            ("cannot open directory ".toList ++ (← shellQuoted s) ++ ": Permission denied".toList)
          status := 2
        else directories := directories ++ [(s, p)]
      else files := files ++ [s ++ mark p]
  let headed := names.length > 1
  let blocks := directories.map fun (s, p) =>
    (if headed then s ++ ":\n".toList else []) ++ listing p
  let first := if files = [] then [] else [Bytes.ofLines files]
  c.emitThen (['\n'].intercalate (first ++ blocks)) status

end AppVersions.Machine.Tool
