-- Where in a text something is wrong, as a person is shown it: the line with its number, and carets
-- under the stretch that is meant.
import AppVersions.Toml.Node

namespace AppVersions.Toml

/-- The line that a stretch starts on and the column of its start, both counted from 0 and the
column in characters, and how many carets point at it. -/
structure Excerpt where
  line : Nat
  column : Nat
  content : String
  carets : Nat
  deriving DecidableEq, Repr

namespace Excerpt

/-- How many bytes characters take. -/
def byteCount (cs : List Char) : Nat := (String.ofList cs).utf8ByteSize

/-- The excerpt for a stretch of `cs`. There is a caret for each byte of the stretch, up to the end
of its first line, and never none. -/
def ofSpan (cs : List Char) (span : Span) : Excerpt :=
  let before := cs.take (cs.length - span.start)
  let rest := cs.drop before.length
  let left := (before.reverse.takeWhile (· ≠ '\n')).reverse
  let content := left ++ rest.takeWhile (· ≠ '\n')
  { line := before.count '\n'
    column := left.length
    content := .ofList content
    carets := max 1 (min (byteCount (rest.take (span.start - span.stop)))
      (byteCount content - left.length)) }

def blanks (n : Nat) : String := .ofList (List.replicate n ' ')

/-- The excerpt between its head line and what is wrong. -/
def render (e : Excerpt) (cause : String) : String :=
  let number := toString (e.line + 1)
  let gutter := blanks (number.length + 1) ++ "|"
  let rows := ["TOML parse error at line " ++ number ++ ", column " ++ toString (e.column + 1),
    gutter, number ++ " | " ++ e.content,
    gutter ++ blanks (e.column + 1) ++ .ofList (List.replicate e.carets '^'), cause]
  String.join (rows.map (· ++ "\n"))

end Excerpt

end AppVersions.Toml
