-- The text of a script while it is being read: tokens, the current line, documents that are still
-- to come, and what can be wrong.
import AppVersions.Machine.Script.Command

namespace AppVersions.Machine.Script

/-! ## Tokens -/

/-- What the sign of a redirection asks for. -/
inductive Sign
  | file (opening : Opening)
  | copy
  | document (dropsTabs : Bool)
  | text
  deriving DecidableEq, Repr

inductive Token
  | finish
  | newline
  | mark (s : String)
  | keyword (s : String)
  | redirection (number : Nat) (sign : Sign)
  | word (w : Word) (isQuoted : Bool)

/-- What a complaint calls a token. -/
def Token.name : Token → String
  | .finish => "end of file"
  | .newline => "newline"
  | .mark s | .keyword s => "\"" ++ s ++ "\""
  | .redirection _ _ => "redirection"
  | .word _ _ => "word"

def Token.isMark (s : String) : Token → Bool
  | .mark t => s == t
  | _ => false

def Token.isKeyword (s : String) : Token → Bool
  | .keyword t => s == t
  | _ => false

def Token.isNewline : Token → Bool
  | .newline => true
  | _ => false

/-- Words that mean something at the start of a command. -/
def keywords : List String :=
  ["!", "case", "do", "done", "elif", "else", "esac", "fi", "for", "if", "in", "then", "until",
    "while", "\x7b", "\x7d"]

/-- Whether a list of commands inside another command ends before a token. -/
def Token.endsList : Token → Bool
  | .finish => true
  | .mark s => s == ")" || s == ";;"
  | .keyword s =>
    ["do", "done", "elif", "else", "esac", "fi", "then", "\x7d"].contains s
  | _ => false

/-- The text of a word that is written without quotes and values. -/
def bareText? (w : Word) : Option Bytes :=
  match w with
  | [] => some []
  | [.plain s] => some s
  | _ => none

/-! ## Reading -/

/-- Why a script cannot be read. -/
structure Fault where
  line : Nat
  message : String
  deriving Repr

/-- A document that a redirection has announced. -/
structure Announced where
  id : Nat
  mark : Bytes
  isQuoted : Bool
  dropsTabs : Bool

/-- The rest of a script. `pushed` is a token that was read and put back, `last` the one that was
read last; `isQuoted` tells that quotes stood in the present word. `replaced` are the aliases whose
text is being read, each with the length of the rest behind its text. -/
structure Source where
  rest : Bytes
  aliases : List (Bytes × Bytes) := []
  replaced : List (Bytes × Nat) := []
  line : Nat := 1
  pushed : Option Token := none
  last : Token := .finish
  isQuoted : Bool := false
  announced : List Announced := []
  documents : List Document := []
  nextDocument : Nat := 0

abbrev Reading := StateT Source (Except Fault)

namespace Reading

def fail {α : Type} (message : String) : Reading α :=
  fun s => .error ⟨s.line, "Syntax error: " ++ message⟩

/-- Complains about the last token. -/
def unexpected {α : Type} : Reading α := do
  fail ((← get).last.name ++ " unexpected")

/-- Complains about the last token, where another one has to stand. -/
def unexpectedFor {α : Type} (wanted : Token) : Reading α := do
  fail ((← get).last.name ++ " unexpected (expecting " ++ wanted.name ++ ")")

/-- A text without the line ends at its start that a backslash takes away, and their number. -/
def joined : Bytes → Nat → Bytes × Nat
  | '\\' :: '\n' :: rest, k => joined rest (k + 1)
  | rest, k => (rest, k)

/-- The next character, behind line ends that count for nothing. -/
def peek : Reading (Option Char) := do
  let s ← get
  match s.rest with
  | '\\' :: _ =>
    let (rest, k) := joined s.rest 0
    set { s with rest, line := s.line + k }
    return rest.head?
  | rest => return rest.head?

/-- Passes a character. -/
def skip : Reading Unit :=
  modify fun s => match s.rest with
    | '\n' :: rest => { s with rest, line := s.line + 1 }
    | _ :: rest => { s with rest }
    | [] => s

/-- The next character as it stands, which is passed. -/
def nextRaw : Reading (Option Char) := do
  let c := (← get).rest.head?
  skip
  return c

def next : Reading (Option Char) := do
  let c ← peek
  skip
  return c

/-- The next character; a line end among the marks of a parameter does not begin a line. -/
def nextOnLine : Reading (Option Char) := do
  let c ← peek
  modify fun s => { s with rest := s.rest.tail }
  return c

/-- Passes a character if it is the next one. -/
def follows (c : Char) : Reading Bool := do
  if (← peek) = some c then
    skip
    return true
  return false

/-- Passes the characters of a class, after `first`. -/
def run (first : Bytes) (p : Char → Bool) : Reading Bytes := do
  go (← get).rest.length first.reverse
where
  go : Nat → Bytes → Reading Bytes
    | 0, done => return done.reverse
    | n + 1, done => do
      match ← peek with
      | none => return done.reverse
      | some c =>
        if !p c then return done.reverse
        skip
        go n (c :: done)

/-- Takes a token back. -/
def push (t : Token) : Reading Unit := modify fun s => { s with pushed := some t, last := t }

/-- Goes on with the text of an alias, which has just been read. `start` is the length of the rest
in front of its name; in its own text an alias is a plain word. -/
def replaceAlias (name : Bytes) (start : Nat) : Reading Bool := do
  let s ← get
  match s.aliases.lookup name with
  | none => return false
  | some text =>
    let replaced := s.replaced.filter fun (_, behind) => behind < start
    if replaced.any (·.1 == name) then return false
    set { s with rest := text ++ s.rest, replaced := (name, s.rest.length) :: replaced }
    return true

def quote : Reading Unit := modify fun s => { s with isQuoted := true }

end Reading

end AppVersions.Machine.Script
