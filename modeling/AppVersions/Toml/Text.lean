-- The texts of TOML: blanks, comments, line ends, the four kinds of strings, and keys.
import AppVersions.Text.Hexadecimal
import AppVersions.Text.Reader
import AppVersions.Toml.Node

namespace AppVersions.Toml

/-- There is only one way to fail: the text is no TOML. -/
abbrev Read := Reader Unit

def refuse {α : Type} : Read α := Reader.fail ()

/-- The first reader that does not fail. -/
def either {α : Type} (a b : Read α) : Read α := fun cs =>
  match a cs with
  | .ok r => .ok r
  | .error _ => b cs

/-- Exactly these characters. -/
def literal (s : List Char) : Read Unit := fun cs =>
  if s.isPrefixOf cs then .ok ((), cs.drop s.length) else .error ()

/-- A value and where it stood. -/
def spanned {α : Type} (r : Read α) : Read (Span × α) := do
  let start ← Reader.left
  let a ← r
  return (⟨start, ← Reader.left⟩, a)

/-! ## Blanks, comments and line ends -/

def isBlank (c : Char) : Bool := c == ' ' || c == '\t'

def skipBlanks : Read Unit := Reader.skipWhile isBlank

/-- Tabs and all characters that are no controls. -/
def isVisible (c : Char) : Bool := c == '\t' || (0x20 ≤ c.toNat && c.toNat ≠ 0x7F)

/-- A comment, if there is one. -/
def skipComment : Read Unit := do
  if (← Reader.peek) = some '#' then Reader.skipWhile isVisible

def lineEnd : Read Unit := fun cs =>
  match cs with
  | '\n' :: rest | '\r' :: '\n' :: rest => .ok ((), rest)
  | _ => .error ()

/-- The rest of a line after what it says: a comment at most. -/
def lineRest : Read Unit := do
  skipBlanks
  skipComment
  if (← get).isEmpty then return
  lineEnd

/-- What is left of a line inside a list, if nothing but a comment is left of it. -/
def idleRest : Read (Option Unit) := do
  skipBlanks
  match ← Reader.peek with
  | some '#' =>
    skipComment
    lineEnd
    return some ()
  | some '\n' | some '\r' =>
    lineEnd
    return some ()
  | _ => return none

/-- Blanks, comments and line ends, as they may stand inside a list. -/
def skipFiller : Read Unit := Reader.repeatStep () (fun () => idleRest) ()

/-! ## Strings on one line -/

/-- A character by `count` hexadecimal digits. -/
def numbered (count : Nat) : Read Char := fun cs =>
  match Text.numberedChar? count cs with
  | some r => .ok r
  | none => .error ()

/-- What follows a backslash. -/
def escaped : Read Char := do
  match ← Reader.next with
  | none => refuse
  | some c =>
    if c = '"' ∨ c = '\\' then return c
    else if c = 'b' then return '\x08'
    else if c = 't' then return '\t'
    else if c = 'n' then return '\n'
    else if c = 'f' then return '\x0c'
    else if c = 'r' then return '\r'
    else if c = 'u' then numbered 4
    else if c = 'U' then numbered 8
    else refuse

/-- The next character between double quotes, or nothing at the closing quote. -/
def basicChar : Read (Option Char) := do
  match ← Reader.next with
  | none => refuse
  | some c =>
    if c = '"' then return none
    else if c = '\\' then return some (← escaped)
    else if isVisible c then return some c
    else refuse

/-- A string in double quotes, with escapes. -/
def basicString : Read String := do
  literal ['"']
  return .ofList (← Reader.collect () fun _ => basicChar)

/-- A string in single quotes, as it stands. -/
def literalString : Read String := do
  literal ['\x27']
  let s ← Reader.takeWhile fun c => c ≠ '\x27' && isVisible c
  literal ['\x27']
  return .ofList s

/-! ## Strings over several lines -/

/-- A run of quotes inside such a string: three close it, and up to two before them belong to it. -/
def quoteRun (quote : Char) : Read (List Char × Bool) := fun cs =>
  let run := (cs.takeWhile (· = quote)).length.min 5
  if 3 ≤ run then .ok ((List.replicate (run - 3) quote, true), cs.drop run)
  else .ok ((List.replicate run quote, false), cs.drop run)

/-- After a backslash at the end of a line: all blanks and line ends that follow are dropped. -/
def lineFold : Read Unit := do
  skipBlanks
  lineEnd
  Reader.repeatStep () (fun () => do
    skipBlanks
    match ← Reader.peek with
    | some '\n' | some '\r' =>
      lineEnd
      return some ()
    | _ => return none) ()

/-- The text of such a string, the last character first, and whether it is closed. -/
abbrev Unfinished := List Char × Bool

def addRun (s : List Char) (quote : Char) : Read (Option Unfinished) := do
  let (run, closed) ← quoteRun quote
  return some (run ++ s, closed)

/-- The next piece between triple quotes; escapes count in double ones. -/
def multilinePiece (quote : Char) (escapes : Bool) :
    Unfinished → Read (Option Unfinished)
  | (_, true) => pure none
  | (s, false) => do
    match ← Reader.peek with
    | none => refuse
    | some c =>
      if c = quote then addRun s quote
      else if c = '\\' && escapes then
        let _ ← Reader.next
        match ← Reader.peek with
        | some ' ' | some '\t' | some '\n' | some '\r' =>
          lineFold
          return some (s, false)
        | _ => return some ((← escaped) :: s, false)
      else if c = '\n' ∨ c = '\r' then
        lineEnd
        return some ('\n' :: s, false)
      else if isVisible c then
        let _ ← Reader.next
        return some (c :: s, false)
      else refuse

/-- A string between triple quotes; a line end right after the opening ones is dropped, and every
other one counts as a line feed. -/
def multilineString (quote : Char) (escapes : Bool) : Read String := do
  literal [quote, quote, quote]
  either lineEnd (pure ())
  let (s, _) ← Reader.repeatStep () (multilinePiece quote escapes) ([], false)
  return .ofList s.reverse

/-- A string of any kind. -/
def string : Read String :=
  either (multilineString '"' true)
    (either (multilineString '\x27' false) (either basicString literalString))

/-! ## Keys -/

def isBareChar (c : Char) : Bool := c.isAlphanum || c == '-' || c == '_'

def bareKey : Read String := do
  let s ← Reader.takeWhile isBareChar
  if s = [] then refuse else return .ofList s

/-- The name that one part of a key is: bare or in quotes. -/
def keyName : Read String := do
  match ← Reader.peek with
  | some '"' => basicString
  | some '\x27' => literalString
  | _ => bareKey

def simpleKey : Read Key := do
  let (span, name) ← spanned keyName
  return ⟨name, span⟩

/-- A key has fewer parts than this. -/
def maxKeyParts : Nat := 80

/-- One more part of a key, if there is one; a dot stands before every part but the first. -/
def keyPart (first : Bool) : Read (Option Key) := do
  skipBlanks
  if first then return some (← simpleKey)
  match ← Reader.peek with
  | some '.' =>
    let _ ← Reader.next
    skipBlanks
    return some (← simpleKey)
  | _ => return none

/-- A key: parts between dots, with blanks around each. -/
def key : Read (List Key) := do
  let parts ← Reader.collect () keyPart
  if parts.length < maxKeyParts then return parts else refuse

end AppVersions.Toml
