-- Numbers of JSON: the literal, and the integer or floating-point value that it stands for.
-- Integers are whole up to 64 bits; anything else is floating point, computed from the first digits
-- that fit into 64 bits and one power of ten.
import AppVersions.Json.Basic
import AppVersions.Number.Shortest

namespace AppVersions.Json

open AppVersions.Number (Binary64 FloatStyle)

/-! ## Literals -/

/-- A number as written. -/
structure NumberLiteral where
  negative : Bool
  whole : List Char
  fraction : Option (List Char)
  exponent : Option (Bool × List Char)
  deriving DecidableEq, Repr

/-- One digit at least. -/
def digitRun : Read (List Char) := do
  match ← Reader.peek with
  | none => truncated
  | some c => if c.isDigit then Reader.takeWhile Char.isDigit else malformed

/-- The digits before the point: a zero stands alone. -/
def wholeDigits : Read (List Char) := do
  let ds ← digitRun
  if ds.head? = some '0' ∧ ds.length ≠ 1 then malformed else return ds

def fractionPart : Read (Option (List Char)) := do
  match ← Reader.peek with
  | some '.' =>
    let _ ← Reader.next
    return some (← digitRun)
  | _ => return none

/-- The exponent, and whether it is negative. -/
def exponentPart : Read (Option (Bool × List Char)) := do
  match ← Reader.peek with
  | some 'e' | some 'E' =>
    let _ ← Reader.next
    match ← Reader.peek with
    | some '-' =>
      let _ ← Reader.next
      return some (true, ← digitRun)
    | some '+' =>
      let _ ← Reader.next
      return some (false, ← digitRun)
    | _ => return some (false, ← digitRun)
  | _ => return none

/-- A number whose sign or first digit is the next character. -/
def numberLiteral : Read NumberLiteral := do
  let negative := (← Reader.peek) = some '-'
  if negative then
    let _ ← Reader.next
  let whole ← wholeDigits
  let fraction ← fractionPart
  let exponent ← exponentPart
  return { negative, whole, fraction, exponent }

/-- Passes over a number; here even one that ends too early is malformed. -/
def skipNumber : Read Unit := fun cs =>
  match numberLiteral cs with
  | .ok (_, rest) => .ok ((), rest)
  | .error _ => .error .malformed

/-! ## Values -/

def maxWord : Nat := 18446744073709551615

/-- Appends digits to `n` as long as the result fits into 64 bits; also how many were appended. -/
def absorb : Nat → List Char → Nat × Nat
  | n, [] => (n, 0)
  | n, c :: cs =>
    let m := n * 10 + (c.toNat - '0'.toNat)
    if maxWord < m then (n, 0)
    else
      let (r, k) := absorb m cs
      (r, k + 1)

/-- `x * 10 ^ e` with one rounding, or several below the range of powers; `none` is infinite. -/
def scaled : Nat → Binary64 → Int → Option Binary64
  | 0, _, _ => some Binary64.zero
  | fuel + 1, x, e =>
    if e.natAbs ≤ 308 then do
      let power ← Binary64.tenPow? e.natAbs
      if 0 ≤ e then x.mul? power else x.div? power
    else if x.isZero then some x
    else if 0 ≤ e then none
    else do scaled fuel (← x.div? (← Binary64.tenPow? 308)) (e + 308)

/-- Shortest digits, the even ones of a tie; without an exponent from 1e-5 up to 1e16. -/
def floatStyle : FloatStyle where
  tie := .toEven
  positional := some (-5, 15)
  showExponent e := (if e < 0 then '-' else '+') :: Nat.toDigits 10 e.natAbs

def signed (negative : Bool) (x : Binary64) : Found :=
  .real (.ofList ((if negative then ['-'] else []) ++ floatStyle.render x))

/-- A floating-point number: a 64-bit significand and a power of ten. -/
def realValue (negative : Bool) (significand : Nat) (exponent : Int) : Except Fault Found :=
  match (Binary64.ofNat? significand).bind fun x => scaled 8 x exponent with
  | some x => .ok (signed negative x)
  | none => .error .malformed

def clampExponent (e : Int) : Int := max (-2147483648) (min 2147483647 e)

/-- What a literal stands for. -/
def NumberLiteral.value (n : NumberLiteral) : Except Fault Found :=
  let (significand, taken) := absorb 0 n.whole
  let dropped : Int := (n.whole.length : Int) - taken
  match n.fraction, n.exponent with
  | none, none =>
    if dropped ≠ 0 then realValue n.negative significand dropped
    else if ¬n.negative then .ok (.integer significand)
    else if significand = 0 ∨ 9223372036854775808 < significand then
      realValue true significand 0
    else .ok (.integer (-significand))
  | fraction, exponent =>
    let (significand, places) := absorb significand (fraction.getD [])
    let shift := dropped - places
    match exponent with
    | none => realValue n.negative significand shift
    | some (below, ds) =>
      let e := Nat.ofDigitChars 10 ds 0
      if 2147483647 < e then
        if significand ≠ 0 ∧ ¬below then .error .malformed
        else .ok (signed n.negative Binary64.zero)
      else realValue n.negative significand (clampExponent (if below then shift - e else shift + e))

/-- A number whose sign or first digit is the next character, and what it stands for. -/
def number : Read Found := do
  Reader.ofExcept (← numberLiteral).value

end AppVersions.Json
