-- Reading an instant from a text: year, month and day, one separator, a time of day and a distance
-- from coordinated universal time. Numbers may have blanks before them, and the first fault from
-- the left is the answer.
import AppVersions.Instant
import AppVersions.Text.Blank
import AppVersions.Text.Reader

namespace AppVersions.Instant

open AppVersions.Text (isBlank)

/-- Why a text is no instant. -/
inductive Fault
  | outOfRange
  | impossible
  | badCharacter
  | endsEarly
  | trailing
  deriving DecidableEq, Repr

def Fault.message : Fault → String
  | .outOfRange => "input is out of range"
  | .impossible => "no possible date and time matching input"
  | .badCharacter => "input contains invalid characters"
  | .endsEarly => "premature end of input"
  | .trailing => "trailing input"

abbrev Read := Reader Fault

/-! ## Pieces -/

def skipBlanks : Read Unit := Reader.skipWhile isBlank

/-- A number of at least one digit; of a longer run only the first `most` digits are taken. -/
def digits (most : Option Nat) : Read (List Char) := fun cs =>
  match cs with
  | [] => .error .endsEarly
  | c :: _ =>
    if c.isDigit then
      let run := cs.takeWhile Char.isDigit
      let n := (most.getD run.length).min run.length
      .ok (cs.take n, cs.drop n)
    else .error .badCharacter

def number (most : Option Nat) : Read Nat := do
  return Nat.ofDigitChars 10 (← digits most) 0

def ensure (ok : Bool) : Read Unit := if ok then pure () else Reader.fail .outOfRange

/-- A number of one or two digits within bounds, with blanks before it. -/
def twoDigits (low high : Nat) : Read Nat := do
  skipBlanks
  let n ← number (some 2)
  ensure (low ≤ n && n ≤ high)
  return n

/-- The character `c`, with blanks before it. -/
def mark (c : Char) : Read Unit := do
  skipBlanks
  match ← Reader.next with
  | none => Reader.fail .endsEarly
  | some d => if c = d then pure () else Reader.fail .badCharacter

/-- A number of at most four digits, or of any number of digits after a sign. -/
def signedNumber : Read Int := do
  match ← Reader.peek with
  | some '-' =>
    let _ ← Reader.next
    return -(← number none : Nat)
  | some '+' =>
    let _ ← Reader.next
    return (← number none : Nat)
  | _ => return (← number (some 4) : Nat)

def year : Read Int := do
  skipBlanks
  let value ← signedNumber
  ensure (-2147483648 ≤ value && value ≤ 2147483647)
  return value

/-- Digits after a point, as nanoseconds: nine digits count and the rest is passed over. -/
def fraction : Read Nat := do
  match ← Reader.peek with
  | some '.' =>
    let _ ← Reader.next
    let ds ← digits (some 9)
    Reader.skipWhile Char.isDigit
    return Nat.ofDigitChars 10 ds 0 * Nat.pow 10 (9 - ds.length)
  | _ => return 0

def separator : Read Unit := do
  match ← Reader.next with
  | some 'T' | some 't' | some ' ' => pure ()
  | some _ => Reader.fail .badCharacter
  | none => Reader.fail .endsEarly

/-- Two digits side by side, the first of them at most `top`; a greater one is out of range. -/
def digitPair (top : Nat) : Read Nat := do
  match ← Reader.next, ← Reader.next with
  | some a, some b =>
    if a.isDigit && b.isDigit then
      ensure (a.toNat - '0'.toNat ≤ top)
      return Nat.ofDigitChars 10 [a, b] 0
    else Reader.fail .badCharacter
  | some a, none => Reader.fail (if a.toNat < 0x80 then .endsEarly else .badCharacter)
  | none, _ => Reader.fail .endsEarly

/-- Minutes ahead of coordinated universal time: `UTC` or `Z` in either case, or hours and minutes
after a sign. -/
def zone : Read Int := do
  skipBlanks
  match ← get with
  | u :: t :: c :: rest =>
    if u.toUpper = 'U' && t.toUpper = 'T' && c.toUpper = 'C' then
      set rest
      return 0
    else distance
  | _ => distance
where
  distance : Read Int := do
    match ← Reader.next with
    | some 'Z' | some 'z' => return 0
    | some '+' => apart
    | some '-' | some '\u2212' => return -(← apart)
    | some _ => Reader.fail .badCharacter
    | none => Reader.fail .endsEarly
  apart : Read Int := do
    let hours ← digitPair 9
    Reader.skipWhile fun c => c == ':' || isBlank c
    let minutes ← digitPair 5
    return (hours * 60 + minutes : Nat)

/-! ## The whole -/

/-- Every part, in order. -/
def parts : Read (Date × Nat × Nat × Nat × Nat × Int) := do
  let y ← year
  mark '-'
  let m ← twoDigits 1 12
  mark '-'
  let d ← twoDigits 1 31
  separator
  let hour ← twoDigits 0 23
  mark ':'
  let minute ← twoDigits 0 59
  mark ':'
  let second ← twoDigits 0 60
  let nanosecond ← fraction
  let offset ← zone
  skipBlanks
  if (← get).isEmpty then return (⟨y, m, d⟩, hour, minute, second, nanosecond, offset)
  else Reader.fail .trailing

/-- The instant that a text names. -/
def read (s : String) : Except Fault Instant := do
  let ((date, hour, minute, second, nanosecond, offset), _) ← parts s.toList
  if ¬date.Valid ∨ 1440 ≤ offset.natAbs then throw .outOfRange
  match ofLocal? date hour minute second nanosecond offset with
  | some t => return t
  | none => throw .impossible

end AppVersions.Instant
