-- Patterns of the shell: a star for any text, a question mark for any character, and sets of
-- characters in square brackets. Quoted characters stand for themselves.
import AppVersions.Machine.Bytes

namespace AppVersions.Machine.Script

/-- A character of an expanded word, or the trace of quotes that stood there. -/
inductive Glyph
  | char (c : Char) (isLiteral : Bool)
  | quotes
  deriving DecidableEq, Repr

namespace Glyph

def ofBytes (isLiteral : Bool) (s : Bytes) : List Glyph := s.map (.char · isLiteral)

/-- The characters of glyphs. -/
def bytes (gs : List Glyph) : Bytes :=
  gs.filterMap fun g => match g with
    | .char c _ => some c
    | .quotes => none

/-- Whether a glyph is this character and not quoted. -/
def isActive (c : Char) (g : Glyph) : Bool := g == .char c false

end Glyph

/-! ## Patterns -/

/-- The pattern that glyphs are: a backslash that was not quoted takes the meaning from the next
character. -/
def patternOf : List Glyph → List Glyph
  | [] => []
  | .quotes :: gs => patternOf gs
  | .char '\\' false :: .char c _ :: gs => .char c true :: patternOf gs
  | .char '\\' false :: gs => .char '\\' true :: patternOf gs
  | g :: gs => g :: patternOf gs

/-- The classes of characters that sets may name. -/
def inClass (name : String) (c : Char) : Bool :=
  let isPunct := '!' ≤ c && c ≤ '~' && !c.isAlphanum
  match name with
  | "alnum" => c.isAlphanum
  | "alpha" => c.isAlpha
  | "blank" => c == ' ' || c == '\t'
  | "cntrl" => c < ' ' || c == '\x7f'
  | "digit" => c.isDigit
  | "graph" => '!' ≤ c && c ≤ '~'
  | "lower" => c.isLower
  | "print" => ' ' ≤ c && c ≤ '~'
  | "punct" => isPunct
  | "space" => c == ' ' || ('\t' ≤ c && c ≤ '\r')
  | "upper" => c.isUpper
  | "xdigit" => c.isDigit || ('a' ≤ c && c ≤ 'f') || ('A' ≤ c && c ≤ 'F')
  | _ => false

def classNames : List String :=
  ["alnum", "alpha", "blank", "cntrl", "digit", "graph", "lower", "print", "punct", "space",
    "upper", "xdigit"]

/-- The name of a class `[:name:]` behind its first bracket, and what follows it. -/
def className? (gs : List Glyph) : Option (String × List Glyph) :=
  match gs with
  | .char ':' false :: rest =>
    let name := (Glyph.bytes (rest.takeWhile fun g => !g.isActive ':'))
    match rest.drop name.length with
    | .char ':' false :: .char ']' false :: rest =>
      if classNames.contains (.ofList name) then some (.ofList name, rest) else none
    | _ => none
  | _ => none

/-- Whether a character is in the set that goes on here, and what follows the set; nothing if the
set has no end. `isFirst` tells that no member has come yet, and `n` bounds the length. -/
def inSet (c : Char) : Nat → Bool → Bool → List Glyph → Option (Bool × List Glyph)
  | 0, _, _, _ => none
  | _, _, _, [] => none
  | n + 1, isFirst, found, g :: gs =>
    if !isFirst && g.isActive ']' then some (found, gs)
    else
      match g.isActive '[', className? gs with
      | true, some (name, rest) => inSet c n false (found || inClass name c) rest
      | _, _ =>
        match g with
        | .quotes => inSet c n false found gs
        | .char a _ =>
          match gs with
          | .char '-' false :: .char b isLiteral :: rest =>
            if b = ']' ∧ ¬isLiteral then inSet c n false (found || c == a) gs
            else inSet c n false (found || (a ≤ c && c ≤ b)) rest
          | gs => inSet c n false (found || c == a) gs

/-- Whether a text fits a pattern; `n` bounds the length of both. -/
def fits : Nat → List Glyph → Bytes → Bool
  | 0, _, _ => false
  | _ + 1, [], s => s == []
  | n + 1, .quotes :: gs, s => fits n gs s
  | n + 1, .char '*' false :: gs, s =>
    fits n gs s || match s with
      | [] => false
      | _ :: s => fits n (.char '*' false :: gs) s
  | n + 1, .char '?' false :: gs, s =>
    match s with
    | [] => false
    | _ :: s => fits n gs s
  | n + 1, .char '[' false :: gs, s =>
    match s with
    | [] => false
    | c :: s =>
      let (isInverted, set) := match gs with
        | .char '!' false :: set => (true, set)
        | set => (false, set)
      match inSet c (set.length + 1) true false set with
      | some (found, rest) => found != isInverted && fits n rest s
      | none => c == '[' && fits n gs s
  | n + 1, .char a _ :: gs, s =>
    match s with
    | [] => false
    | c :: s => c == a && fits n gs s

/-- Whether a text fits the pattern that glyphs are. -/
def Glyph.accept (gs : List Glyph) (s : Bytes) : Bool :=
  let pattern := patternOf gs
  fits (pattern.length + s.length + 1) pattern s

/-- Whether glyphs ask for file names. -/
def Glyph.isPattern (gs : List Glyph) : Bool :=
  gs.any fun g => g.isActive '*' || g.isActive '?' || g.isActive '['

/-! ## Parts of texts -/

/-- A text up to the first null character, which stands between arguments. -/
def upToNull (s : Bytes) : Bytes := s.takeWhile (· != '\x00')

/-- How much a pattern takes from the start of a text. No more than the first argument is compared
with the pattern; if the longest part is wanted and all of it fits, everything is taken. -/
def trimmedStart (pattern : List Glyph) (longest : Bool) (s : Bytes) : Nat :=
  let first := upToNull s
  let fits (k : Nat) : Bool := Glyph.accept pattern (first.take k)
  let lengths := List.range (first.length + 1)
  if longest then if fits first.length then s.length else (lengths.reverse.find? fits).getD 0
  else (lengths.find? fits).getD 0

/-- How much of a text is left without the part at its end that a pattern asks for. The end of any
argument is compared with the pattern, but only that of the first one for the longest part; what
follows goes as well. -/
def trimmedEnd (pattern : List Glyph) (longest : Bool) (s : Bytes) : Nat :=
  let fits (k : Nat) : Bool := Glyph.accept pattern (upToNull (s.drop k))
  let lengths := List.range (s.length + 1)
  let found? :=
    if longest then (lengths.take ((upToNull s).length + 1)).find? fits
    else lengths.reverse.find? fits
  found?.getD s.length

end AppVersions.Machine.Script
