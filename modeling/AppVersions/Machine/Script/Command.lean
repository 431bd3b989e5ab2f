-- Shell scripts as data: words that are expanded when a command runs, and the commands made of
-- them.
import AppVersions.Machine.Bytes

namespace AppVersions.Machine.Script

/-! ## Parts of words -/

/-- What a parameter in braces asks for. Where `orEmpty` holds, an empty value counts as none; a
word that belongs to nothing is `following` the value. -/
inductive Operator
  | plain
  | orElse (orEmpty : Bool)
  | orAssign (orEmpty : Bool)
  | orComplain (orEmpty : Bool)
  | instead (orEmpty : Bool)
  | trimEnd (longest : Bool)
  | trimStart (longest : Bool)
  | length
  | following
  | invalid
  deriving DecidableEq, Repr

/-- How a redirection opens a file. -/
inductive Opening
  | read
  | write
  | overwrite
  | append
  | readWrite
  deriving DecidableEq, Repr

mutual

/-- A piece of a word. `quotes` marks that quotes stood there, so that the word is a field even if
it is empty; `everyArgument` is the list of all arguments alone between quotes. -/
inductive Piece
  | plain (s : Bytes)
  | quoted (s : Bytes)
  | quotes
  | everyArgument
  | value (name : Bytes) (operator : Operator) (other : List Piece) (inQuotes : Bool)
  | sum (expression : List Piece) (inQuotes : Bool)
  | output (body : Command) (inQuotes : Bool)

/-- Where a numbered file leads: to a named file, to what another number leads to, nowhere, or to
the text of a document in the script. -/
inductive Redirection
  | file (number : Nat) (opening : Opening) (name : List Piece)
  | copy (number : Nat) (source : Nat)
  | close (number : Nat)
  | copyNamed (number : Nat) (source : List Piece)
  | document (number : Nat) (id : Nat)
  | text (number : Nat) (content : List Piece)

/-- Commands, with the lines that complaints about them name. -/
inductive Command
  | simple (line : Nat) (settings : List (Bytes × List Piece)) (words : List (List Piece))
      (redirections : List Redirection)
  | sequence (first second : Command)
  | both (first second : Command)
  | either (first second : Command)
  | negate (body : Command)
  | pipe (parts : List Command)
  | apart (line : Nat) (body : Command) (redirections : List Redirection)
  | background (line : Nat) (body : Command) (redirections : List Redirection)
  | redirected (line : Nat) (body : Command) (redirections : List Redirection)
  | repeatWhile (wanted : Bool) (condition body : Command)
  | forEach (line : Nat) (name : Bytes) (words : List (List Piece)) (body : Command)
  | choose (condition whenTrue : Command) (whenFalse : Option Command)
  | select (line : Nat) (subject : List Piece) (cases : List (List (List Piece) × Command))
  | define (name : Bytes) (line : Nat) (body : Command)
  | nothing

end

abbrev Word := List Piece

/-- A text in the script that a command reads, under the number that the command knows it by. -/
abbrev Document := Nat × Word

/-! ## Names -/

def isNameStart (c : Char) : Bool := c.isAlpha || c == '_'

def isNameChar (c : Char) : Bool := c.isAlphanum || c == '_'

/-- Whether a text can name a variable. -/
def isName (s : Bytes) : Bool := s.head?.any isNameStart && s.all isNameChar

/-- A text `name=value` as its two parts. -/
def setting? (s : Bytes) : Option (Bytes × Bytes) :=
  let name := s.takeWhile isNameChar
  match s.drop name.length with
  | '=' :: value => if isName name then some (name, value) else none
  | _ => none

/-- A word that starts with a plain `name=`, as the name and the word behind it. -/
def Word.setting? : Word → Option (Bytes × Word)
  | .plain s :: rest => (Script.setting? s).map fun (name, value) => (name, .plain value :: rest)
  | _ => none

end AppVersions.Machine.Script
