-- Routines about the directory that a shell is in, and about the permissions of new files.
import AppVersions.Machine.Script.Asking

namespace AppVersions.Machine.Script.Sh

/-! ## Directories -/

/-- The segments of a path with those that lead back taken out. -/
def straightened : List Bytes → List Bytes → List Bytes
  | done, [] => done.reverse
  | done, s :: rest =>
    if s = [] ∨ s = ['.'] then straightened done rest
    else if s = ['.', '.'] then straightened done.tail rest
    else straightened (s :: done) rest

/-- The path of `s`, seen from a directory, without detours. Two slashes in front stay. -/
def straightPath (directory s : Bytes) : Bytes :=
  let whole := if s.head? = some '/' then s else directory ++ '/' :: s
  let front := match whole with
    | '/' :: '/' :: c :: _ => if c = '/' then ['/'] else ['/', '/']
    | ['/', '/'] => ['/', '/']
    | _ => ['/']
  front ++ ['/'].intercalate (straightened [] (whole.splitOn '/'))

/-- The place that the shell is in, as a path without links. -/
def physicalDirectory : Sh Bytes := return Bytes.ofText (FileTree.placeText (← Act.here))

/-- Remembers the directory, and the one before it if it is to be told. -/
def setDirectory (directory : Bytes) (tellsOld : Bool) : Sh Unit := do
  if tellsOld then setVariable "OLDPWD".toList (← get).directory true
  modify fun sh => { sh with directory }
  setVariable "PWD".toList directory true

/-- Goes to a directory, or tells why not. -/
def enter (s : Bytes) (isPhysical : Bool) : Sh (Option IoError) := do
  let directory := (← get).directory
  let logical := if isPhysical ∨ (directory = [] ∧ s.head? ≠ some '/') then none
    else some (straightPath directory s)
  let t ← Act.tree
  let p : Path := ⟨Bytes.text (logical.getD s)⟩
  match t.locate (← Act.here) p with
  | .error e => return some e
  | .ok place =>
    match t.node? place with
    | some (.directory mode) =>
      if ¬mayRun mode then return some .accessDenied
      Act.changeProcess fun process => { process with here := place }
      setDirectory (logical.getD (← physicalDirectory)) true
      return none
    | _ => return some .noDirectory

/-- Whether options of a routine ask for paths without links. -/
def asksPhysical (options : List (Char × Bytes)) : Bool := options.getLast?.any (·.1 == 'P')

def changeDirectory : Routine := fun _ arguments =>
  withOptions "LP" "" arguments fun options others => do
    let isPhysical := asksPhysical options
    let goal? ← match others with
      | [] => value? "HOME".toList
      | ['-'] :: _ => value? "OLDPWD".toList
      | s :: _ => pure (some s)
    let goal := goal?.getD []
    let tells := others.head? = some ['-']
    let finish (tells : Bool) : Sh Nat := do
      if tells then print ((← get).directory ++ ['\n']) else return 0
    let first := (goal.splitOn '/').headD []
    let isPlain := goal.head? ≠ some '/' ∧ first ≠ ['.'] ∧ first ≠ ['.', '.']
    let listed ← value? "CDPATH".toList
    let searched := if isPlain then (listed.getD []).splitOn ':' else []
    let goal' := if goal = [] then ['.'] else goal
    let t ← Act.tree
    let here ← Act.here
    let found := (searched.filter (· ≠ [])).find? fun d =>
      t.isDirectory here ⟨Bytes.text (d ++ '/' :: goal')⟩
    let path := match found with
      | some d => d ++ '/' :: goal'
      | none => goal'
    match ← enter path isPhysical with
    | none => finish (tells || found.isSome)
    | some why => failAs (.notEntered goal why)

def printDirectory : Routine := fun _ arguments =>
  withOptions "LP" "" arguments fun options _ => do
    let directory ← if asksPhysical options then physicalDirectory else pure (← get).directory
    print (directory ++ ['\n'])

/-! ## Permissions -/

/-- Permissions of one kind of user as letters. -/
def permissionLetters (bits : Nat) : Bytes :=
  (if bits / 4 % 2 = 1 then ['r'] else []) ++ (if bits / 2 % 2 = 1 then ['w'] else []) ++
    (if bits % 2 = 1 then ['x'] else [])

/-- The bits that letters of users stand for, and those of permissions. -/
def userBits (c : Char) : Option Nat :=
  [('u', 0o700), ('g', 0o070), ('o', 0o007), ('a', 0o777)].lookup c

def permissionBits (c : Char) : Option Nat :=
  [('r', 0o444), ('w', 0o222), ('x', 0o111)].lookup c

/-- A change of permissions that is written in letters, such as `u+x`; users alone change
nothing. -/
def changedPermissions (permissions : Nat) (s : Bytes) : Option Nat :=
  (s.splitOn ',').foldl (fun p? part => do
    let p ← p?
    let users := part.takeWhile fun c => (userBits c).isSome
    let mask := if users = [] then 0o777 else (users.filterMap userBits).foldl Nat.lor 0
    match part.drop users.length with
    | operator :: letters =>
      let bits ← letters.mapM permissionBits
      let bits := Nat.land mask (bits.foldl Nat.lor 0)
      if operator = '+' then some (Nat.lor p bits)
      else if operator = '-' then some (Nat.land p (0o777 - bits))
      else if operator = '=' then some (Nat.lor (Nat.land p (0o777 - mask)) bits)
      else none
    | [] => if users = [] then none else some p) (some permissions)

def setMask : Routine := fun _ arguments =>
  withOptions "S" "" arguments fun options others => do
    let mask := (← Act.process).mask
    match others with
    | [] =>
      if options = [] then
        print ((Nat.toDigits 8 mask).leftpad 4 '0' ++ ['\n'])
      else
        let allowed := 0o777 - mask
        print ("u=".toList ++ permissionLetters (allowed / 64) ++ ",g=".toList ++
          permissionLetters (allowed / 8) ++ ",o=".toList ++ permissionLetters allowed ++ ['\n'])
    | s :: _ =>
      if s.head?.any Char.isDigit then
        if ¬s.all fun c => '0' ≤ c && c ≤ '7' then fail ("Illegal number: ".toList ++ s)
        let n := Nat.ofDigitChars 8 s 0
        Act.changeProcess fun p => { p with mask := Nat.land n 0o777 }
      else
        match changedPermissions (0o777 - mask) s with
        | some n => Act.changeProcess fun p => { p with mask := 0o777 - n }
        | none => fail ("Illegal mode: ".toList ++ s)
      return 0

end AppVersions.Machine.Script.Sh
