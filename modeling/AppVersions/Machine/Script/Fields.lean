-- Expanded words as stretches of glyphs, and the fields that they split into.
import AppVersions.Machine.Script.Matching

namespace AppVersions.Machine.Script

/-! ## Stretches -/

/-- How a stretch of an expanded word may be split: not at all, at separators, or only between the
arguments in it, which null characters separate. -/
inductive Region
  | whole
  | split
  | separate
  deriving DecidableEq, Repr

structure Stretch where
  region : Region
  glyphs : List Glyph

/-- The text of stretches. -/
def Stretch.bytes (ss : List Stretch) : Bytes := ss.flatMap fun s => Glyph.bytes s.glyphs

def Stretch.allGlyphs (ss : List Stretch) : List Glyph := ss.flatMap Stretch.glyphs

/-! ## Separators -/

/-- Separators that count only once, and not at the ends. -/
def isBlankSeparator (c : Char) : Bool := c == ' ' || c == '\t' || c == '\n' || c == '\x00'

/-- The separators unless others are set. -/
def defaultSeparators : Bytes := " \t\n".toList

/-! ## Splitting -/

/-- Fields being split. `finished` holds the last field first, and `open` the glyphs of the present
one, the last first; `afterBlank` tells that a separator has just ended a field. A bound on the
fields keeps all that follows in the last one, of which `keep` glyphs are left in the end. -/
structure Splitting where
  finished : List (List Glyph) := []
  current : List Glyph := []
  afterBlank : Bool := false
  limit : Option Nat := none
  keep : Option Nat := none

namespace Splitting

/-- One glyph of a stretch that splits at `separators`; null characters separate always. -/
def feed (separators : Bytes) (region : Region) (afterSeparate : Bool) (s : Splitting) (g : Glyph) :
    Splitting :=
  let isSeparator := match g with
    | .char c _ => c == '\x00' || (region == .split && separators.contains c)
    | .quotes => false
  let isBlank := isSeparator && match g with
    | .char c _ => isBlankSeparator c
    | .quotes => false
  if s.limit = some 0 then
    let s' := { s with current := g :: s.current }
    if isBlank then { s' with keep := some (s.keep.getD s.current.length) }
    else if isSeparator && s.afterBlank then { s' with afterBlank := false }
    else { s' with keep := none, afterBlank := false }
  else if s.afterBlank && isBlank then { s with current := [] }
  else if s.afterBlank && isSeparator then { s with current := [], afterBlank := false }
  else if isSeparator then
    let blank := if afterSeparate || region == .separate then s.afterBlank else isBlank
    if s.current = [] ∧ blank then { s with afterBlank := false }
    else
      match s.limit with
      | some 1 =>
        { s with
          limit := some 0
          keep := some s.current.length
          current := g :: s.current
          afterBlank := blank }
      | limit =>
        { s with finished := s.current.reverse :: s.finished, current := [], afterBlank := blank
                 limit := limit.map (· - 1) }
  else { s with current := g :: s.current, afterBlank := false }

/-- All stretches, one after the other. -/
def run (separators : Bytes) : Bool → Splitting → List Stretch → Splitting × Bool
  | last, s, [] => (s, last)
  | last, s, st :: rest =>
    match st.region with
    | .whole => run separators last { s with current := st.glyphs.reverse ++ s.current } rest
    | region =>
      let s := st.glyphs.foldl (feed separators region last) { s with afterBlank := false }
      run separators (region == .separate) s rest

end Splitting

/-- The fields that stretches split into, at most as many as `limit` says. -/
def fieldsOf (separators : Bytes) (limit : Option Nat) (ss : List Stretch) : List (List Glyph) :=
  let (s, last) := Splitting.run separators false { limit } ss
  let final := match s.keep with
    | some k => s.current.reverse.take k
    | none => s.current.reverse
  if final = [] ∧ ¬last then s.finished.reverse else (final :: s.finished).reverse

end AppVersions.Machine.Script
