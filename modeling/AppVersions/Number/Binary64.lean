-- Floating-point magnitudes with 53 bits (the format binary64), computed exactly: a quotient of two
-- natural numbers is rounded to the nearest representable value, a half to the even neighbour.

namespace AppVersions.Number

/-- The value `mantissa * 2 ^ exponent`, with `mantissa < 2 ^ 53` and `-1074 ≤ exponent ≤ 971`. -/
structure Binary64 where
  mantissa : Nat
  exponent : Int
  deriving DecidableEq, Repr

namespace Binary64

/-- The nearest natural number to `num / den`, of two the even one. -/
def roundDiv (num den : Nat) : Nat :=
  let q := num / den
  let r := num % den
  if 2 * r < den then q else if den < 2 * r then q + 1 else q + q % 2

def zero : Binary64 := ⟨0, -1074⟩

def isZero (x : Binary64) : Bool := x.mantissa == 0

/-- The power of two that leaves 53 bits before the point of `num / den`, or the least power. -/
def scale (num den : Nat) : Int :=
  let guess : Int := (num.log2 : Int) - den.log2 - 53
  let reached := if 0 ≤ guess then den * Nat.pow 2 guess.toNat * Nat.pow 2 53 ≤ num
    else den * Nat.pow 2 53 ≤ num * Nat.pow 2 (-guess).toNat
  max (-1074) (if reached then guess + 1 else guess)

/-- The representable value nearest to `num / den`, unless that is infinite. -/
def ofRatio? (num den : Nat) : Option Binary64 :=
  if num = 0 then some zero
  else
    let e := scale num den
    let m := if 0 ≤ e then roundDiv num (den * Nat.pow 2 e.toNat)
      else roundDiv (num * Nat.pow 2 (-e).toNat) den
    let x : Binary64 := if m = Nat.pow 2 53 then ⟨Nat.pow 2 52, e + 1⟩ else ⟨m, e⟩
    if 971 < x.exponent then none else some x

/-- The value as a quotient. -/
def toRatio (x : Binary64) : Nat × Nat :=
  if 0 ≤ x.exponent then (x.mantissa * Nat.pow 2 x.exponent.toNat, 1)
  else (x.mantissa, Nat.pow 2 (-x.exponent).toNat)

def ofNat? (n : Nat) : Option Binary64 := ofRatio? n 1

def mul? (x y : Binary64) : Option Binary64 :=
  ofRatio? (x.toRatio.1 * y.toRatio.1) (x.toRatio.2 * y.toRatio.2)

def div? (x y : Binary64) : Option Binary64 :=
  ofRatio? (x.toRatio.1 * y.toRatio.2) (x.toRatio.2 * y.toRatio.1)

/-- The value nearest to `10 ^ e`. -/
def tenPow? (e : Nat) : Option Binary64 := ofNat? (Nat.pow 10 e)

/-- The value nearest to `digits * 10 ^ exponent`. Beyond the two bounds it is certainly infinite or
zero, and no power is computed. -/
def ofDecimal? (digits : Nat) (exponent : Int) : Option Binary64 :=
  let size : Int := exponent + (Nat.toDigits 10 digits).length
  if digits = 0 ∨ size < -330 then some zero
  else if 320 < size then none
  else if 0 ≤ exponent then ofRatio? (digits * Nat.pow 10 exponent.toNat) 1
  else ofRatio? digits (Nat.pow 10 (-exponent).toNat)

end Binary64

end AppVersions.Number
