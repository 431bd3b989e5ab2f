-- Numbers, dates and times of TOML.
import AppVersions.Calendar
import AppVersions.Toml.Text

namespace AppVersions.Toml

open AppVersions.Number (Binary64)

/-! ## Digits -/

/-- Digits of the class `p`; a single underscore may stand between two of them. -/
def digitsBetween (p : Char → Bool) : Read (List Char) := do
  Reader.collect () fun first => do
    match ← Reader.peek with
    | some c =>
      if p c then
        let _ ← Reader.next
        return some c
      else if c = '_' && !first then
        let _ ← Reader.next
        match ← Reader.next with
        | some d => if p d then return some d else refuse
        | none => refuse
      else if first then refuse
      else return none
    | none => if first then refuse else return none

/-- The sign, and whether it is a minus. -/
def sign : Read Bool := do
  match ← Reader.peek with
  | some '-' =>
    let _ ← Reader.next
    return true
  | some '+' =>
    let _ ← Reader.next
    return false
  | _ => return false

/-- Decimal digits without a zero before others. -/
def wholeDigits : Read (List Char) := do
  match ← Reader.peek with
  | some '0' =>
    let _ ← Reader.next
    return ['0']
  | _ => digitsBetween Char.isDigit

/-! ## Integers -/

def integerOf (n : Int) : Read Scalar :=
  if -9223372036854775808 ≤ n ∧ n ≤ 9223372036854775807 then pure (.integer n) else refuse

def decimalInteger : Read Scalar := do
  let negative ← sign
  let n : Int := Nat.ofDigitChars 10 (← wholeDigits) 0
  integerOf (if negative then -n else n)

/-- An integer to another base, after `mark`. -/
def integerToBase (mark : List Char) (base : Nat) : Read Scalar := do
  literal mark
  let isDigit (c : Char) : Bool := (Text.hexValue? c).any (· < base)
  let ds ← digitsBetween isDigit
  integerOf ((ds.filterMap Text.hexValue?).foldl (fun n d => n * base + d) 0 : Nat)

def integer : Read Scalar :=
  either (integerToBase ['0', 'x'] 16)
    (either (integerToBase ['0', 'o'] 8)
      (either (integerToBase ['0', 'b'] 2) decimalInteger))

/-! ## Floating-point numbers -/

def special : Read Scalar := do
  let negative ← sign
  either (do literal "inf".toList; return .real negative .infinite)
    (do literal "nan".toList; return .real negative .notANumber)

def fraction : Read (List Char) := do
  literal ['.']
  digitsBetween Char.isDigit

def exponent : Read Int := do
  either (literal ['e']) (literal ['E'])
  let negative ← sign
  let n : Int := Nat.ofDigitChars 10 (← digitsBetween Char.isDigit) 0
  return if negative then -n else n

/-- Digits with a fraction, an exponent or both. Only a positive number may not be too large. -/
def real : Read Scalar := do
  let negative ← sign
  let whole ← wholeDigits
  let (places, e) ←
    either (do return ([], ← exponent))
      (do
        let places ← fraction
        return (places, ← either exponent (pure 0)))
  let digits := Nat.ofDigitChars 10 (whole ++ places) 0
  match Binary64.ofDecimal? digits (e - places.length) with
  | some x => return .real negative (.finite x)
  | none => if negative then return .real true .infinite else refuse

/-! ## Dates and times -/

/-- Exactly `count` digits, as a number within bounds. -/
def fixedDigits (count low high : Nat) : Read Nat := fun cs =>
  let ds := cs.take count
  let n := Nat.ofDigitChars 10 ds 0
  if ds.length = count ∧ ds.all Char.isDigit ∧ low ≤ n ∧ n ≤ high then .ok (n, cs.drop count)
  else .error ()

def date : Read Unit := do
  let year ← fixedDigits 4 0 9999
  literal ['-']
  let month ← fixedDigits 2 1 12
  literal ['-']
  let _ ← fixedDigits 2 1 (Date.monthLength year month)

def time : Read Unit := do
  let _ ← fixedDigits 2 0 23
  literal [':']
  let _ ← fixedDigits 2 0 59
  literal [':']
  let _ ← fixedDigits 2 0 60
  if (← Reader.peek) = some '.' then
    let _ ← Reader.next
    let ds ← Reader.takeWhile Char.isDigit
    if ds = [] then refuse

/-- The distance from coordinated universal time, which may be left out. -/
def zone : Read Unit := do
  match ← Reader.peek with
  | some 'Z' | some 'z' => let _ ← Reader.next
  | some '+' | some '-' =>
    let _ ← Reader.next
    let _ ← fixedDigits 2 0 23
    literal [':']
    let _ ← fixedDigits 2 0 59
  | _ => return

def separator : Read Unit := do
  match ← Reader.next with
  | some 'T' | some 't' | some ' ' => return
  | _ => refuse

/-- A date, a time of day, or both, and then perhaps a distance. -/
def dateTime : Read Scalar := do
  either
    (do
      date
      either (do separator; time; zone) (pure ()))
    time
  return .dateTime

/-- Anything that starts like a number. -/
def number : Read Scalar := either dateTime (either real (either special integer))

end AppVersions.Toml
