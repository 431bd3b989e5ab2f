-- Single arguments, told apart by their leading dashes.

namespace AppVersions.CommandLine

/-- Two dashes alone, an option by its name and perhaps a value after an equals sign, options by
their letters, or anything else; a lone dash and the empty argument are nothing special. -/
inductive Token
  | separator
  | long (name : String) (value : Option String)
  | short (letters : List Char)
  | plain
  deriving DecidableEq, Repr

/-- What follows the equals sign, if there is one. -/
def attached? (cs : List Char) : Option String :=
  match cs.dropWhile (· != '=') with
  | [] => none
  | _ :: value => some (.ofList value)

def Token.ofChars : List Char → Token
  | ['-', '-'] => .separator
  | '-' :: '-' :: cs => .long (.ofList (cs.takeWhile (· != '='))) (attached? cs)
  | '-' :: c :: cs => .short (c :: cs)
  | _ => .plain

def Token.ofString (s : String) : Token := .ofChars s.toList

end AppVersions.CommandLine
