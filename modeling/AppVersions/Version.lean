-- Semantic versions: three numbers, identifiers of a pre-release and of a build; how they are read
-- and which of them reach a release.
import AppVersions.Text.Quoted
import AppVersions.Text.Reader

namespace AppVersions

structure Version where
  major : Nat
  minor : Nat
  patch : Nat
  preRelease : List Char
  build : List Char
  deriving DecidableEq, Repr

namespace Version

/-! ## Writing -/

def text (v : Version) : String :=
  let numbers := toString v.major ++ "." ++ toString v.minor ++ "." ++ toString v.patch
  let pre := if v.preRelease = [] then "" else "-" ++ .ofList v.preRelease
  let build := if v.build = [] then "" else "+" ++ .ofList v.build
  numbers ++ pre ++ build

/-! ## Order -/

/-- Whether `v` comes before the release with these numbers: it has smaller ones, or is a pre-
release of it. Builds never count. -/
def isBefore (v : Version) (major minor patch : Nat) : Bool :=
  if v.major ≠ major then v.major < major
  else if v.minor ≠ minor then v.minor < minor
  else if v.patch ≠ patch then v.patch < patch
  else v.preRelease ≠ []

/-! ## Faults -/

inductive Part
  | major
  | minor
  | patch
  | preRelease
  | build
  deriving DecidableEq, Repr

inductive Fault
  | empty
  | ends (part : Part)
  | unexpected (part : Part) (c : Char)
  | unexpectedAfter (part : Part) (c : Char)
  | leadingZero (part : Part)
  | tooLarge (part : Part)
  | emptySegment (part : Part)
  deriving DecidableEq, Repr

def Part.name : Part → String
  | .major => "major version number"
  | .minor => "minor version number"
  | .patch => "patch version number"
  | .preRelease => "pre-release identifier"
  | .build => "build metadata"

def Fault.message : Fault → String
  | .empty => "empty string, expected a semver version"
  | .ends p => "unexpected end of input while parsing " ++ p.name
  | .unexpected p c =>
    "unexpected character " ++ Text.quotedChar c ++ " while parsing " ++ p.name
  | .unexpectedAfter p c => "unexpected character " ++ Text.quotedChar c ++ " after " ++ p.name
  | .leadingZero p => "invalid leading zero in " ++ p.name
  | .tooLarge p => "value of " ++ p.name ++ " exceeds u64::MAX"
  | .emptySegment p => "empty identifier segment in " ++ p.name

/-! ## Reading -/

abbrev Read := Reader Fault

def maxNumber : Nat := 18446744073709551615

/-- Whether digits start with a zero and go on. -/
def hasLeadingZero : List Char → Bool
  | '0' :: _ :: _ => true
  | _ => false

def number (part : Part) : Read Nat := fun cs =>
  let ds := cs.takeWhile Char.isDigit
  let rest := cs.dropWhile Char.isDigit
  match ds, rest with
  | [], [] => .error (.ends part)
  | [], c :: _ => .error (.unexpected part c)
  | ds, rest =>
    let n := Nat.ofDigitChars 10 ds 0
    if hasLeadingZero ds then .error (.leadingZero part)
    else if maxNumber < n then .error (.tooLarge part)
    else .ok (n, rest)

/-- The point after a number. -/
def point (part : Part) : Read Unit := fun cs =>
  match cs with
  | '.' :: rest => .ok ((), rest)
  | c :: _ => .error (.unexpectedAfter part c)
  | [] => .error (.ends part)

def isIdentifierChar (c : Char) : Bool := c.isAlphanum || c == '-'

/-- What is wrong with one segment between points, if anything. A number of a pre-release has no
leading zero. -/
def segmentFault? (part : Part) (s : List Char) : Option Fault :=
  if s = [] then some (.emptySegment part)
  else if part = .preRelease ∧ s.all Char.isDigit ∧ hasLeadingZero s then some (.leadingZero part)
  else none

/-- Segments between points, not all of them empty. -/
def identifier (part : Part) : Read (List Char) := fun cs =>
  let body := cs.takeWhile fun c => isIdentifierChar c || c == '.'
  match (body.splitOn '.').findSome? (segmentFault? part) with
  | some fault => .error fault
  | none => .ok (body, cs.drop body.length)

/-- What follows the character `c`, if that is next. -/
def after (c : Char) (r : Read (List Char)) : Read (List Char) := do
  if (← Reader.peek) = some c then
    let _ ← Reader.next
    r
  else return []

/-- The whole of a version; `last` is the part before the next character. -/
def whole : Read Version := do
  let major ← number .major
  point .major
  let minor ← number .minor
  point .minor
  let patch ← number .patch
  let preRelease ← after '-' (identifier .preRelease)
  let build ← after '+' (identifier .build)
  match ← Reader.peek with
  | none => return { major, minor, patch, preRelease, build }
  | some c =>
    let last : Part :=
      if build ≠ [] then .build else if preRelease ≠ [] then .preRelease else .patch
    Reader.fail (.unexpectedAfter last c)

/-- The version that a text names, blanks not allowed. -/
def read (s : List Char) : Except Fault Version :=
  if s = [] then .error .empty else (whole s).map (·.1)

end Version

end AppVersions
