-- Values of TOML: single ones, lists, and tables in braces, nested up to a limit.
import AppVersions.Toml.Number
import AppVersions.Toml.Table

namespace AppVersions.Toml

def flag : Read Scalar :=
  either (do literal "true".toList; return .flag true)
    (do literal "false".toList; return .flag false)

def scalar : Read Scalar := do
  match ← Reader.peek with
  | none => refuse
  | some c =>
    if c = '"' ∨ c = '\x27' then return .text (← string)
    else if c = 't' ∨ c = 'f' then flag
    else number

/-- One more element of a list, if there is one: a comma stands before every element but the first,
and perhaps one after the last. -/
def element (value : Read Node) (first : Bool) : Read (Option Node) := do
  skipFiller
  if first then
    if (← Reader.peek) = some ']' then return none else return some (← value)
  match ← Reader.next with
  | some ',' =>
    skipFiller
    if (← Reader.peek) = some ']' then return none else return some (← value)
  | some ']' => do
    let cs ← get
    set (']' :: cs)
    return none
  | _ => refuse

/-- The elements of a list after its bracket. -/
def elements (value : Read Node) : Read (List Node) := do
  let ns ← Reader.collect () (element value)
  literal [']']
  return ns

/-- One key and its value: the parts of the key before the last, the last one, and the value. -/
def assignment (value : Read Node) : Read (List Key × Key × Node) := do
  let parts ← key
  skipBlanks
  literal ['=']
  skipBlanks
  let n ← value
  match parts.getLast? with
  | some k => return (parts.dropLast, k, n)
  | none => refuse

/-- The entries of a table in braces after its brace, on one line. -/
def braced (value : Read Node) : Read Entries := do
  let pairs ← Reader.collect () fun first => do
    skipBlanks
    match ← Reader.peek with
    | some '\x7d' => return none
    | some c =>
      if first then return some (← assignment value)
      else if c = ',' then
        let _ ← Reader.next
        return some (← assignment value)
      else refuse
    | none => refuse
  literal ['\x7d']
  match Entries.ofAssignments .braces pairs with
  | some es => return es
  | none => refuse

/-- A value that holds no others. -/
def plain : Read Node := do
  let (span, v) ← spanned scalar
  return .scalar span v

/-- A list, a table in braces, or a single value, given how to read the values inside. -/
def valueAround (value : Read Node) : Read Node := do
  match ← Reader.peek with
  | some '[' =>
    let (span, ns) ← spanned (do
      literal ['[']
      elements value)
    return .array span ns
  | some '\x7b' =>
    let (span, es) ← spanned (do
      literal ['\x7b']
      braced value)
    return .table .braces (some span) es
  | _ => plain

/-- A value with at most this many lists and tables around its innermost ones. -/
def value : Nat → Read Node
  | 0 => plain
  | depth + 1 => valueAround (value depth)

/-- How deep lists and tables in braces may be nested. -/
def maxDepth : Nat := 79

end AppVersions.Toml
