-- Expanding words: parameters, the output of commands, sums, home directories, and the names of
-- files that patterns stand for.
import AppVersions.Machine.Script.Arithmetic
import AppVersions.Machine.Script.Shell

namespace AppVersions.Machine.Script

/-! ## Manners -/

/-- Where a tilde stands for a home directory: nowhere, at the start of a word, or also behind the
colons of a setting. -/
inductive Tildes
  | never
  | atStart
  | inSetting
  | inArgument
  deriving DecidableEq

/-- How a word is expanded: whether it is split into fields, where tildes count, and whether its
plain text is split as well. -/
structure Manner where
  splits : Bool := false
  tildes : Tildes := .never
  breaksPlain : Bool := false

/-- What running a shell takes: commands, words, scripts, the output of a command, and programs in
place of the shell. The flags of a command and of a script tell that a failure is expected, and that
of a command also that nothing follows it. -/
structure Engine where
  run : Command → Bool → Bool → Sh Unit
  expand : Manner → Word → Sh (List Stretch)
  script : Bytes → Bool → Sh Unit
  output : Command → Sh Bytes
  program : Bytes → List Bytes → Act (Except IoError WaitStatus)

namespace Sh

/-! ## Tildes -/

/-- The home directory of a user; without a name, of the present one. -/
def home? (user : Bytes) : Sh (Option Bytes) := do
  if user = [] then value? "HOME".toList
  else if user = "root".toList then return some "/root".toList
  else return none

/-- The glyphs of a plain text with its tildes. `starts` tells that a tilde counts here, and
`isLast` that nothing follows the text in its word. -/
def tilded (tildes : Tildes) (isLast : Bool) : Nat → Bool → Bytes → Sh (List Glyph)
  | 0, _, _ => return []
  | _, _, [] => return []
  | n + 1, starts, c :: s => do
    let others (starts : Bool) : Sh (List Glyph) :=
      return .char c false :: (← tilded tildes isLast n starts s)
    if starts && c == '~' then
      let user := s.takeWhile fun d => d != '/' && (tildes == .atStart || d != ':')
      let rest := s.drop user.length
      match ← home? user with
      | some home =>
        if rest = [] ∧ ¬isLast then others false
        else return Glyph.ofBytes true home ++ (← tilded tildes isLast n false rest)
      | none => others false
    else
      match tildes with
      | .inSetting => others (c == ':')
      | .inArgument => others (c == ':' || c == '=')
      | _ => others false

/-! ## Parameters -/

/-- All arguments with separators between them, as they stand in a word. -/
def allArguments (m : Manner) (isList inQuotes : Bool) : Sh (List Stretch) := do
  let arguments := (← get).arguments
  let ifs ← value? "IFS".toList
  let joined (separator : Bytes) : List Glyph :=
    Glyph.ofBytes inQuotes (separator.intercalate arguments)
  let byFirst : Bytes := match ifs with
    | some s => s.take 1
    | none => [' ']
  if inQuotes then
    if isList && m.splits then
      return if arguments = [] then [] else [⟨.separate, joined ['\x00']⟩]
    else return [⟨.whole, joined byFirst⟩]
  else if m.splits then
    return [⟨.split, joined (if ifs.isSome then ['\x00'] else [' '])⟩]
  else return [⟨.split, joined byFirst⟩]

/-- A text as it stands in a word, where quotes keep it from being split. -/
def stretch (inQuotes : Bool) (s : Bytes) : List Stretch :=
  if inQuotes then [⟨.whole, Glyph.ofBytes true s⟩] else [⟨.split, Glyph.ofBytes false s⟩]

def isAll (name : Bytes) : Bool := name == ['@'] || name == ['*']

/-- The value of a parameter, with all arguments as one text. -/
def wholeValue? (name : Bytes) : Sh (Option Bytes) := do
  if isAll name then return some (← joinedArguments [' ']) else parameter? name

/-- The value of a parameter as it stands in a word. -/
def valueStretches (m : Manner) (name : Bytes) (inQuotes : Bool) : Sh (List Stretch) := do
  if isAll name then allArguments m (name == ['@']) inQuotes
  else
    match ← parameter? name with
    | some s => return stretch inQuotes s
    | none => return if inQuotes then [] else [⟨.split, []⟩]

/-- Complains about a parameter without a value. The extended shell is left, which a script that it
was given as an argument makes known. -/
def leaveUnset (c : Complaint) : Sh Unit := do
  if (← get).isExtended then
    complainOf c
    setStatus (if (← hasOption 'c') then 127 else 1)
    throw .leave
  else failAs c

/-- Complains about a parameter without a value, if the shell is asked to. -/
def checkSet (name : Bytes) : Sh Unit := do
  if (← hasOption 'u') && (← wholeValue? name).isNone then
    leaveUnset (.unset name)

/-- The text of an expanded word. -/
def text (e : Engine) (w : Word) : Sh Bytes :=
  return Stretch.bytes (← e.expand { tildes := .atStart } w)

/-- Keeps a part of the glyphs of stretches, from one place to another. -/
def cut (ss : List Stretch) (drop take : Nat) : List Stretch :=
  (ss.foldl (fun (done, drop, take) st =>
    let kept := (st.glyphs.drop drop).take take
    (⟨st.region, kept⟩ :: done, drop - st.glyphs.length, take - kept.length))
    (([] : List Stretch), drop, take)).1.reverse

def expandValue (e : Engine) (m : Manner) (name : Bytes) (op : Operator) (other : Word)
    (inQuotes : Bool) : Sh (List Stretch) := do
  let value ← wholeValue? name
  let has (orEmpty : Bool) : Bool := match value with
    | some s => !(orEmpty && s.isEmpty)
    | none => false
  let plainly : Sh (List Stretch) := valueStretches m name inQuotes
  let replaced : Sh (List Stretch) :=
    e.expand { splits := m.splits, tildes := .atStart, breaksPlain := !inQuotes } other
  match op with
  | .invalid => fail "Bad substitution".toList
  | .plain =>
    checkSet name
    plainly
  | .following =>
    checkSet name
    return (← plainly) ++ (← replaced)
  | .orElse orEmpty => if has orEmpty then plainly else replaced
  | .instead orEmpty =>
    if has orEmpty then replaced else return if inQuotes then [] else [⟨.split, []⟩]
  | .orAssign orEmpty =>
    if has orEmpty then plainly
    else
      let s ← text e other
      if !isName name then fail (name ++ ": bad variable name".toList)
      setVariable name s false
      plainly
  | .orComplain orEmpty =>
    if has orEmpty then plainly
    else
      let why ← text e other
      if other = [] then leaveUnset (.missing name orEmpty)
      else
        complain (name ++ ": ".toList ++ why)
        let sh ← get
        setStatus (if sh.isExtended then if sh.options.contains 'c' then 127 else 1 else 2)
        throw (if sh.isExtended then .leave else .fail)
      return []
  | .length =>
    checkSet name
    return stretch inQuotes (.ofNat (value.getD []).length)
  | .trimStart longest | .trimEnd longest =>
    checkSet name
    let ss ← plainly
    if value.isNone then return ss
    let pattern := Stretch.allGlyphs (← e.expand { tildes := .atStart } other)
    let s := Stretch.bytes ss
    match op with
    | .trimStart _ => return cut ss (trimmedStart pattern longest s) s.length
    | _ => return cut ss 0 (trimmedEnd pattern longest s)

/-! ## Words -/

/-- The value of a sum, whose variables it may set. -/
def sumValue (e : Engine) (w : Word) : Sh Bytes := do
  let s := Stretch.bytes (← e.expand {} w)
  let sh ← get
  match evaluate (fun name => (sh.bindings.lookup name).bind Variable.value) s with
  | .ok (n, settings) =>
    for (name, value) in settings do setVariable name value false
    return .ofInt n
  | .error (.badSum why) =>
    fail ("arithmetic expression: ".toList ++ why.toList ++ ": \"".toList ++ s ++ ['"'])
  | .error (.badNumber s) => fail ("Illegal number: ".toList ++ s)

def expandPiece (e : Engine) (m : Manner) (isFirst isLast : Bool) : Piece → Sh (List Stretch)
  | .plain s => do
    let glyphs ← if m.tildes = .never then pure (Glyph.ofBytes false s)
      else tilded m.tildes isLast s.length isFirst s
    return [⟨if m.breaksPlain then .split else .whole, glyphs⟩]
  | .quoted s => return [⟨.whole, Glyph.ofBytes true s⟩]
  | .quotes => return [⟨.whole, [.quotes]⟩]
  | .everyArgument => allArguments m true true
  | .value name op other inQuotes => expandValue e m name op other inQuotes
  | .sum w inQuotes => return stretch inQuotes (← sumValue e w)
  | .output c inQuotes => return stretch inQuotes (← e.output c)

/-- Expands the pieces of a word in order. -/
def expandPieces (e : Engine) (m : Manner) : Bool → Word → Sh (List Stretch)
  | _, [] => return []
  | isFirst, p :: ps => do
    let ss ← expandPiece e m isFirst ps.isEmpty p
    return ss ++ (← expandPieces e m false ps)

/-! ## File names -/

/-- The parts of a pattern between slashes. -/
def pathParts (gs : List Glyph) : List (List Glyph) :=
  let (part, parts) := gs.foldr (fun g (part, parts) => match g with
    | .char '/' _ => ([], part :: parts)
    | g => (g :: part, parts)) (([] : List Glyph), ([] : List (List Glyph)))
  part :: parts

/-- The names in a directory that a pattern stands for; hidden ones have to be asked for. -/
def matchingNames (t : FileTree) (here : Place) (base : Bytes) (part : List Glyph) : List Bytes :=
  let p : Path := ⟨if base = [] then "." else Bytes.text base⟩
  match t.locate here p with
  | .ok place =>
    if (t.node? place).any fun n => n.isDirectory && mayRead n.mode then
      let names := ['.'] :: ['.', '.'] :: (t.names place).map fun s => Bytes.ofText (.ofList s)
      let asksHidden := match patternOf part with
        | .char '.' _ :: _ => true
        | _ => false
      names.filter fun s => (asksHidden || s.head? != some '.') && Glyph.accept part s
    else []
  | .error _ => []

/-- The paths that go on from others as the parts of a pattern say. -/
def matchingPaths (t : FileTree) (here : Place) : List Bytes → List (List Glyph) → List Bytes
  | bases, [] => bases
  | bases, part :: parts =>
    let onwards := bases.flatMap fun base =>
      let found := if Glyph.isPattern part then matchingNames t here base part
        else [Glyph.bytes (patternOf part)]
      found.map (base ++ ·)
    let onwards := if parts = [] then onwards else onwards.map (· ++ ['/'])
    matchingPaths t here onwards parts

/-- The files that a field stands for, in order; a field that stands for none is itself. -/
def fileNames (gs : List Glyph) : Sh (List Bytes) := do
  if (← hasOption 'f') || !Glyph.isPattern gs then return [Glyph.bytes gs]
  let t ← Act.tree
  let here ← Act.here
  let isThere (s : Bytes) : Bool :=
    let p : Path := ⟨Bytes.text s⟩
    if s.getLast? = some '/' then t.isDirectory here p
    else match t.entryPlace here p with
      | .ok place => (t.node? place).isSome
      | .error _ => false
  let found := (matchingPaths t here [[]] (pathParts gs)).filter isThere
  match found.mergeSort Bytes.precedes with
  | [] => return [Glyph.bytes gs]
  | names => return names

/-! ## Results -/

/-- The fields of a word, with the files that they stand for. -/
def fields (e : Engine) (w : Word) : Sh (List Bytes) := do
  let ss ← e.expand { splits := true, tildes := .atStart } w
  let names ← (fieldsOf (← separators) none ss).mapM fileNames
  return names.flatten

/-- The value of a setting. -/
def settingText (e : Engine) (w : Word) : Sh Bytes :=
  return Stretch.bytes (← e.expand { tildes := .inSetting } w)

/-- The pattern that a word is. -/
def pattern (e : Engine) (w : Word) : Sh (List Glyph) :=
  return Stretch.allGlyphs (← e.expand { tildes := .atStart } w)

end Sh

end AppVersions.Machine.Script
