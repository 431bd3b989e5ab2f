-- Strings of JSON: between double quotes, with escapes for quotes, backslashes and controls, and
-- for any character as one or two numbers of four hexadecimal digits.
import AppVersions.Json.Basic
import AppVersions.Text.Hexadecimal
import AppVersions.Text.Utf8

namespace AppVersions.Json

open Text (hexValue?)

/-! ## Writing -/

/-- One character inside a string; only quotes, backslashes and controls are escaped. -/
def escape (c : Char) : List Char :=
  if c = '"' then ['\\', '"']
  else if c = '\\' then ['\\', '\\']
  else if c = '\x08' then ['\\', 'b']
  else if c = '\t' then ['\\', 't']
  else if c = '\n' then ['\\', 'n']
  else if c = '\x0c' then ['\\', 'f']
  else if c = '\r' then ['\\', 'r']
  else if c.toNat < 0x20 then '\\' :: 'u' :: (Nat.toDigits 16 c.toNat).leftpad 4 '0'
  else [c]

def quote (s : String) : List Char := '"' :: s.toList.flatMap escape ++ ['"']

/-! ## Reading -/

/-- Four hexadecimal digits. The text ends too early when fewer than four bytes are left. -/
def hex4 : Read Nat := fun cs =>
  match cs with
  | a :: b :: c :: d :: rest =>
    match hexValue? a, hexValue? b, hexValue? c, hexValue? d with
    | some a, some b, some c, some d => .ok (((a * 16 + b) * 16 + c) * 16 + d, rest)
    | _, _, _, _ => .error .malformed
  | short => .error (if (Text.Utf8.encode short).length < 4 then .truncated else .malformed)

def isHighSurrogate (n : Nat) : Bool := 0xD800 ≤ n && n ≤ 0xDBFF

def isLowSurrogate (n : Nat) : Bool := 0xDC00 ≤ n && n ≤ 0xDFFF

/-- The character of a number after its first escape: the first half of a pair needs the second. -/
def paired (n : Nat) : Read Char := do
  if isLowSurrogate n then malformed
  else if isHighSurrogate n then
    literal ['\\', 'u']
    let low ← hex4
    if isLowSurrogate low then return Char.ofNat ((n - 0xD800) * 1024 + (low - 0xDC00) + 0x10000)
    else malformed
  else return Char.ofNat n

/-- What follows a backslash; `resolve` says which character a number stands for. -/
def escaped (resolve : Nat → Read Char) : Read Char := do
  match ← Reader.next with
  | none => truncated
  | some c =>
    if c = '"' ∨ c = '\\' ∨ c = '/' then return c
    else if c = 'b' then return '\x08'
    else if c = 'f' then return '\x0c'
    else if c = 'n' then return '\n'
    else if c = 'r' then return '\r'
    else if c = 't' then return '\t'
    else if c = 'u' then resolve (← hex4)
    else malformed

/-- The next character of a string, or nothing at the closing quote. -/
def stringChar (resolve : Nat → Read Char) : Read (Option Char) := do
  match ← Reader.next with
  | none => truncated
  | some c =>
    if c = '"' then return none
    else if c = '\\' then return some (← escaped resolve)
    else if c.toNat < 0x20 then malformed
    else return some c

/-- The rest of a string, after its opening quote. -/
def stringRest (resolve : Nat → Read Char) : Read (List Char) :=
  Reader.collect .truncated fun _ => stringChar resolve

/-- A string whose opening quote is the next character. -/
def string : Read String := do
  let _ ← Reader.next
  return .ofList (← stringRest paired)

/-- Passes over a string, whatever its numbers stand for. -/
def skipString : Read Unit := do
  let _ ← Reader.next
  let _ ← stringRest fun _ => pure '\x00'

end AppVersions.Json
