-- The filter that picks the log entries that are written: directives, and how they are read from a
-- setting.
import AppVersions.Log
import AppVersions.Log.Pattern
import AppVersions.Text.Alphanumeric
import AppVersions.Text.Blank

namespace AppVersions.Log

/-! ## Directives -/

/-- A field that is asked for, with any value or with one that fits a pattern. -/
structure FieldTest where
  name : String
  hasValue : Bool
  deriving DecidableEq, Repr

/-- Entries down to a rank, of the targets that start with `target`, that have all the fields; rank
0 is none. `span` names an activity during which alone the directive counts. -/
structure Directive where
  target : Option String := none
  span : Option String := none
  fields : List FieldTest := []
  rank : Nat := Level.trace.rank
  deriving DecidableEq, Repr

namespace Directive

/-- Activities are not recorded, so a directive that waits for one, or for a value in one, is about
no entry. -/
def isAbout (d : Directive) (e : Entry) : Bool :=
  d.span.isNone && !d.fields.any FieldTest.hasValue
    && d.target.all (fun t => t.toList.isPrefixOf e.target.toList)
    && d.fields.all fun f => f.name == "message" || e.fields.any (·.1 == f.name)

def compareNames : List FieldTest → List FieldTest → Ordering
  | [], [] => .eq
  | [], _ :: _ => .lt
  | _ :: _, [] => .gt
  | f :: fs, g :: gs => (compare f.name g.name).then (compareNames fs gs)

/-- How exactly a directive says what it is about: by the length of its target, then by the number
of its fields, then by their names. -/
def compare (a b : Directive) : Ordering :=
  let length (d : Directive) : Nat := (d.target.map fun t => t.utf8ByteSize + 1).getD 0
  (Ord.compare (length a) (length b)).then
    ((Ord.compare a.fields.length b.fields.length).then (compareNames a.fields b.fields))

end Directive

/-! ## Filters -/

abbrev Filter := List Directive

namespace Filter

/-- Of the directives that are about an entry the most exact one decides, and of equally exact ones
the last. -/
def passes (f : Filter) (e : Entry) : Bool :=
  let best := (f.filter (·.isAbout e)).foldl (fun best d =>
    match best with
    | none => some d
    | some b => if (b.compare d).isLE then some d else some b) none
  match best with
  | some d => e.level.rank ≤ d.rank
  | none => false

def upTo (level : Level) : Filter := [{ rank := level.rank }]

/-- The filter that a count of verbosity flags asks for. -/
def ofCount (count : Nat) : Filter :=
  .upTo (match count with
    | 0 => .warn
    | 1 => .info
    | 2 => .debug
    | _ => .trace)

end Filter

/-! ## Reading -/

/-- The rank of a number, which may have a plus sign and zeros in front, or of a level's name in any
case. -/
def rank? (s : List Char) : Option Nat :=
  let digits := match s with
    | '+' :: ds => ds
    | ds => ds
  if !digits.isEmpty && digits.all Char.isDigit then
    let n := Nat.ofDigitChars 10 digits 0
    if n ≤ Level.trace.rank then some n else none
  else
    let s := s.map Char.toLower
    if s = "off".toList then some 0
    else (Level.all.find? fun l => l.name.toList.map Char.toLower == s).map Level.rank

/-- A field and perhaps the pattern behind its equals sign. -/
def FieldTest.read? (s : List Char) : Option FieldTest :=
  match s.splitOn '=' with
  | [] | [[]] => none
  | [name] => some ⟨.ofList name, false⟩
  | name :: pattern :: _ =>
    if Pattern.isReadable pattern then some ⟨.ofList name, true⟩ else none

namespace Directive

/-- What is being read of a directive, and where that began. -/
inductive Part
  | start
  | levelOrTarget (first : Nat)
  | span (first : Nat)
  | field (first : Nat)
  | afterFields
  | afterSpan
  | level (first : Nat)

def canStart (c : Char) : Bool := c == '-' || c == ':' || c == '_' || Text.isAlphanumeric c

/-- Reads the character at a place. The parts are cut out of `s`. -/
def step (s : List Char) : Part × Directive → Char × Nat → Option (Part × Directive)
  | (part, d), (c, n) =>
    let cut (first : Nat) : List Char := (s.take n).drop first
    match part with
    | .start =>
      if c = '[' then some (.span (n + 1), d)
      else if canStart c then some (.levelOrTarget n, d)
      else none
    | .levelOrTarget first =>
      if c = '=' then some (.level (n + 1), { d with target := some (.ofList (cut first)) })
      else if c = '[' then some (.span (n + 1), { d with target := some (.ofList (cut first)) })
      else some (part, d)
    | .span first =>
      if c = ']' then some (.afterSpan, { d with span := some (.ofList (cut first)) })
      else if c = '\x7b' then
        let span := if cut first = [] then none else some (.ofList (cut first))
        some (.field (n + 1), { d with span })
      else some (part, d)
    | .field first =>
      if c = '\x7d' then
        (FieldTest.read? (cut first)).map fun f => (.afterFields, { d with fields := [f] })
      else some (part, d)
    | .afterFields => if c = ']' then some (.afterSpan, d) else none
    | .afterSpan => if c = '=' then some (.level (n + 1), d) else none
    | .level _ => some (part, d)

/-- A directive `target[span{field=pattern}]=level`, of which all parts but one may be missing. The
places of the parts are found in the text without the blanks around it but counted in the text with
them, so blanks in front spoil what follows. -/
def read? (s : List Char) : Option Directive := do
  let (part, d) ← (Text.strip Text.isBlank s).zipIdx.foldlM (step s) (.start, {})
  match part with
  | .levelOrTarget first =>
    match rank? (s.drop first) with
    | some rank => some { d with rank }
    | none => some { d with target := some (.ofList (s.drop first)) }
  | .level first =>
    if s.drop first = [] then some d else (rank? (s.drop first)).map fun rank => { d with rank }
  | .afterSpan => some d
  | _ => none

end Directive

namespace Filter

/-- A filter written as directives between commas; without any, errors pass. -/
def ofText? (s : String) : Option Filter := do
  let directives ← ((s.toList.splitOn ',').filter (!·.isEmpty)).mapM Directive.read?
  return if directives.isEmpty then .upTo .error else directives

/-- The filter that a setting asks for, or the count of verbosity flags where there is no setting
that can be read. -/
def chosen (setting : Option String) (count : Nat) : Filter :=
  (setting.bind ofText?).getD (ofCount count)

end Filter

end AppVersions.Log
