-- The shortest decimal text of a floating-point magnitude: the fewest digits that round back to it,
-- and of those the nearest to it. Which of two equally near ones is taken, and how digits and
-- exponent are laid out, is a style.
import AppVersions.Number.Binary64

namespace AppVersions.Number

/-! ## Digits -/

/-- The value `digits * 10 ^ exponent`. -/
structure Decimal where
  digits : Nat
  exponent : Int
  deriving DecidableEq, Repr

/-- Which of two equally near points is taken: the even one or the greater one. -/
inductive Tie
  | toEven
  | up
  deriving DecidableEq, Repr

namespace Binary64

/-- Four times the value and the ends of the interval that rounds to it, all in units of
`2 ^ (exponent - 2)`. The interval is shorter below a power of two. -/
def interval (x : Binary64) : Nat × Nat × Nat :=
  let low := if x.mantissa = Nat.pow 2 52 ∧ -1074 < x.exponent then 4 * x.mantissa - 1
    else 4 * x.mantissa - 2
  (low, 4 * x.mantissa, 4 * x.mantissa + 2)

/-- The two points of the grid of step `10 ^ k` around the value that round back to it,
the nearer one first. -/
def gridPoints (x : Binary64) (tie : Tie) (k : Int) : List Nat :=
  let (low, mid, high) := x.interval
  -- both sides are multiplied by what makes them natural numbers
  let e := x.exponent - 2
  let unit := Nat.pow 2 e.toNat * Nat.pow 10 (-k).toNat
  let step := Nat.pow 2 (-e).toNat * Nat.pow 10 k.toNat
  let below := mid * unit / step
  let rest := mid * unit % step
  let even := x.mantissa % 2 = 0
  let inside (c : Nat) : Bool :=
    if even then low * unit ≤ c * step && c * step ≤ high * unit
    else low * unit < c * step && c * step < high * unit
  let order :=
    if 2 * rest < step ∨ (2 * rest = step ∧ tie = .toEven ∧ below % 2 = 0) then [below, below + 1]
    else [below + 1, below]
  order.filter fun c => inside c && 0 < c

/-- The position of the first digit: the greatest `k` with `10 ^ k` at most the value, searched
downwards from `k`. -/
def leading (num den : Nat) : Nat → Int → Int
  | 0, k => k
  | fuel + 1, k =>
    if den * Nat.pow 10 k.toNat ≤ num * Nat.pow 10 (-k).toNat then k
    else leading num den fuel (k - 1)

/-- The first hit among the grids of one digit, two digits and so on. -/
def shortestFrom (x : Binary64) (tie : Tie) (first : Int) : Nat → Nat → Decimal
  | 0, _ => ⟨x.mantissa, x.exponent⟩
  | fuel + 1, n =>
    let k := first - n
    match x.gridPoints tie k with
    | c :: _ => ⟨c, k⟩
    | [] => shortestFrom x tie first fuel (n + 1)

/-- The shortest digits of a value that is not zero. -/
def shortest (x : Binary64) (tie : Tie) : Decimal :=
  let (num, den) := x.toRatio
  -- log 2 is between 30102 and 30103 parts in 100000
  let guess : Int := ((num.log2 : Int) - den.log2 + 1) * 30103 / 100000 + 1
  x.shortestFrom tie (leading num den 4 guess) 18 0

end Binary64

/-! ## Layout -/

/-- How a magnitude is laid out: which digits a tie gives, the scientific exponents written without
an exponent, if not all, and how an exponent is written. -/
structure FloatStyle where
  tie : Tie
  positional : Option (Int × Int)
  showExponent : Int → List Char

/-- Digits without the zeros at their end, and how many zeros were there. -/
def trimZeros : Nat → Nat → Nat → Nat × Nat
  | 0, d, z => (d, z)
  | fuel + 1, d, z => if d % 10 = 0 ∧ d ≠ 0 then trimZeros fuel (d / 10) (z + 1) else (d, z)

/-- The text of a magnitude; without an exponent there is always a digit after the point. -/
def FloatStyle.render (style : FloatStyle) (x : Binary64) : List Char :=
  if x.isZero then "0.0".toList
  else
    let d := x.shortest style.tie
    let (m, zeros) := trimZeros 400 d.digits 0
    let digits := Nat.toDigits 10 m
    let exponent := d.exponent + zeros
    let scientific : Int := exponent + digits.length - 1
    let inRange := match style.positional with
      | none => true
      | some (low, high) => low ≤ scientific && scientific ≤ high
    if inRange then
      if 0 ≤ exponent then digits ++ List.replicate exponent.toNat '0' ++ ['.', '0']
      else if 0 ≤ scientific then
        digits.take (scientific.toNat + 1) ++ '.' :: digits.drop (scientific.toNat + 1)
      else "0.".toList ++ List.replicate (-scientific - 1).toNat '0' ++ digits
    else
      let mantissa := match digits with
        | [c] => [c]
        | c :: cs => c :: '.' :: cs
        | [] => []
      mantissa ++ 'e' :: style.showExponent scientific

end AppVersions.Number
