-- Passing over a value of JSON that nobody asked for. It has to be well formed, but what its
-- strings and numbers stand for is not looked at.
import AppVersions.Json.Number
import AppVersions.Json.Quoted

namespace AppVersions.Json

/-- Whether another item follows in a list or object that ends with `close`; it and the commas are
taken off, an item is left in place. -/
def hasItem (close : Char) (first : Bool) : Read Bool := do
  match ← peekToken with
  | none => truncated
  | some c =>
    if c = close then
      let _ ← Reader.next
      return false
    else if first then return true
    else if c = ',' then
      let _ ← Reader.next
      match ← peekToken with
      | none => truncated
      | some d => if d = close then malformed else return true
    else malformed

mutual

/-- Passes over one value; `n` bounds the number of nested values and items. -/
def skipWithin : Nat → Read Unit
  | 0 => truncated
  | n + 1 => do
    match ← peekToken with
    | none => truncated
    | some c =>
      if c = 'n' then literal "null".toList
      else if c = 't' then literal "true".toList
      else if c = 'f' then literal "false".toList
      else if c = '"' then skipString
      else if c = '-' ∨ c.isDigit then skipNumber
      else if c = '[' then
        let _ ← Reader.next
        skipElements n true
      else if c = '\x7b' then
        let _ ← Reader.next
        skipMembers n true
      else malformed

def skipElements : Nat → Bool → Read Unit
  | 0, _ => truncated
  | n + 1, first => do
    if ← hasItem ']' first then
      skipWithin n
      skipElements n false

def skipMembers : Nat → Bool → Read Unit
  | 0, _ => truncated
  | n + 1, first => do
    if ← hasItem '\x7d' first then
      match ← Reader.peek with
      | some '"' => skipString
      | _ => malformed
      colon
      skipWithin n
      skipMembers n false

end

/-- Passes over one value, which has no more nested values and items than characters. -/
def skipValue : Read Unit := fun cs => skipWithin (2 * cs.length + 2) cs

end AppVersions.Json
