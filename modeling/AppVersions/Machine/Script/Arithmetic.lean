-- Sums in scripts: whole numbers of 64 bits that wrap around, variables, and the operators of sums
-- with their assignments.
import AppVersions.Machine.Script.Command

namespace AppVersions.Machine.Script

/-! ## Numbers -/

def digitValue (c : Char) : Nat :=
  if c.isDigit then c.toNat - '0'.toNat
  else if c.isLower then c.toNat - 'a'.toNat + 10
  else if c.isUpper then c.toNat - 'A'.toNat + 10
  else 99

def isSpace (c : Char) : Bool := c == ' ' || ('\t' ≤ c && c ≤ '\r')

/-- The largest and the smallest number. -/
def maxNumber : Int := 9223372036854775807

def minNumber : Int := -9223372036854775808

def clamped (n : Int) : Int := max minNumber (min maxNumber n)

/-- A number wrapped around to 64 bits. -/
def wrapped (n : Int) : Int := n.bmod 18446744073709551616

/-- Digits of a base, as a number, and the rest. -/
def digitsOf (base : Nat) (s : Bytes) : Nat × Bytes :=
  let ds := s.takeWhile fun c => digitValue c < base
  (ds.foldl (fun n d => n * base + digitValue d) 0, s.drop ds.length)

/-- A number without a sign, whose base its start tells: hexadecimal, octal or decimal. -/
def unsigned (s : Bytes) : Nat × Bytes :=
  match s with
  | '0' :: x :: d :: rest =>
    if (x == 'x' || x == 'X') && digitValue d < 16 then digitsOf 16 (d :: rest)
    else digitsOf 8 (x :: d :: rest)
  | '0' :: rest => digitsOf 8 rest
  | s => digitsOf 10 s

/-- The number that a text starts with after blanks, and the rest; without digits the number is zero
and all is left. Numbers out of range become the nearest one. -/
def leadingNumber (read : Bytes → Nat × Bytes) (s : Bytes) : Int × Bytes :=
  let body := s.dropWhile isSpace
  let (isNegative, digits) := match body with
    | '-' :: rest => (true, rest)
    | '+' :: rest => (false, rest)
    | rest => (false, rest)
  if digits.head?.any Char.isDigit then
    let (n, rest) := read digits
    (clamped (if isNegative then -(n : Int) else n), rest)
  else (0, s)

/-- A whole text as a number; blanks around it are fine. -/
def wholeNumber? (read : Bytes → Nat × Bytes) (s : Bytes) : Option Int :=
  let (n, rest) := leadingNumber read s
  if rest.all isSpace then some n else none

/-! ## Tokens -/

inductive SumToken
  | finish
  | number (n : Int)
  | name (s : Bytes)
  | sign (s : String)
  | assign (operator : String)
  | unknown
  deriving DecidableEq

/-- Signs of two characters and of one, the longer ones first. -/
def signs : List String :=
  ["<<", ">>", "<=", ">=", "==", "!=", "&&", "||", "<", ">", "!", "~", "(", ")", "+", "-", "*",
    "/", "%", "&", "|", "^", "?", ":"]

/-- Signs that an equals sign may follow, which then assigns. -/
def assigning : List String := ["<<", ">>", "+", "-", "*", "/", "%", "&", "|", "^"]

/-- The tokens of a sum; `n` bounds their number. -/
def sumTokens : Nat → Bytes → List SumToken
  | 0, _ => [.unknown]
  | n + 1, s =>
    match s with
    | [] => []
    | c :: rest =>
      if c = ' ' ∨ c = '\t' ∨ c = '\n' then sumTokens n rest
      else if c.isDigit then
        let (k, rest) := unsigned s
        .number (clamped k) :: sumTokens n rest
      else if isNameStart c then
        let name := s.takeWhile isNameChar
        .name name :: sumTokens n (s.drop name.length)
      else
        match signs.find? fun t => t.toList.isPrefixOf s with
        | some t =>
          let rest := s.drop t.length
          match assigning.contains t, rest with
          | true, '=' :: rest => .assign t :: sumTokens n rest
          | _, rest => .sign t :: sumTokens n rest
        | none => if c = '=' then .assign "" :: sumTokens n rest else [.unknown]

/-! ## Values -/

/-- Why a sum has no value: the text is no sum, or a variable holds no number. -/
inductive SumFault
  | badSum (why : String)
  | badNumber (s : Bytes)

/-- What is left of a sum, and the variables that it has set, the last one first. -/
structure Summing where
  tokens : List SumToken
  settings : List (Bytes × Bytes) := []

abbrev Sum := StateT Summing (Except SumFault)

namespace Sum

def fail {α : Type} (why : String) : Sum α := throw (.badSum why)

def peek : Sum SumToken := return (← get).tokens.headD .finish

def skip : Sum Unit := modify fun s => { s with tokens := s.tokens.tail }

def follows (t : String) : Sum Bool := do
  if (← peek) = .sign t then
    skip
    return true
  return false

/-- The value of a variable; `values` are those from before. -/
def lookup (values : Bytes → Option Bytes) (name : Bytes) : Sum Int := do
  let text := ((← get).settings.lookup name).getD ((values name).getD [])
  match wholeNumber? unsigned text with
  | some n => return n
  | none => throw (.badNumber text)

def set (name : Bytes) (n : Int) : Sum Unit :=
  modify fun s => { s with settings := (name, Bytes.ofInt n) :: s.settings }

end Sum

/-- How tightly the operators between two values bind; more is tighter. -/
def precedences : List (String × Nat) :=
  [("*", 8), ("/", 8), ("%", 8), ("+", 7), ("-", 7), ("<<", 6), (">>", 6), ("<", 5), ("<=", 5),
    (">", 5), (">=", 5), ("==", 4), ("!=", 4), ("&", 3), ("^", 2), ("|", 1)]

def precedence? : SumToken → Option (String × Nat)
  | .sign s => (precedences.lookup s).map fun p => (s, p)
  | _ => none

def ofBool (b : Bool) : Int := if b then 1 else 0

/-- The bits of a number, as a number that is not negative. -/
def bitsOf (n : Int) : Nat := (n.emod 18446744073709551616).toNat

def operate (op : String) (a b : Int) : Sum Int := do
  let shift := bitsOf b % 64
  match op with
  | "*" => return wrapped (a * b)
  | "/" => if b = 0 then Sum.fail "division by zero" else return wrapped (a.tdiv b)
  | "%" => if b = 0 then Sum.fail "division by zero" else return a.tmod b
  | "+" => return wrapped (a + b)
  | "-" => return wrapped (a - b)
  | "<<" => return wrapped (a * Nat.pow 2 shift)
  | ">>" => return a.fdiv (Nat.pow 2 shift)
  | "<" => return ofBool (a < b)
  | "<=" => return ofBool (a ≤ b)
  | ">" => return ofBool (b < a)
  | ">=" => return ofBool (b ≤ a)
  | "==" => return ofBool (a == b)
  | "!=" => return ofBool (a != b)
  | "&" => return wrapped (Nat.land (bitsOf a) (bitsOf b))
  | "^" => return wrapped (Nat.xor (bitsOf a) (bitsOf b))
  | _ => return wrapped (Nat.lor (bitsOf a) (bitsOf b))

mutual

/-- An assignment or anything weaker. Where `counts` does not hold, the value is not needed, and
nothing is looked up or set; `n` bounds the depth. -/
def assignment (values : Bytes → Option Bytes) : Nat → Bool → Sum Int
  | 0, _ => Sum.fail "expecting primary"
  | n + 1, counts => do
    match (← get).tokens with
    | .name x :: .assign op :: rest =>
      modify fun s => { s with tokens := rest }
      let b ← assignment values n counts
      if !counts then return b
      let result ← if op = "" then pure b else do operate op (← Sum.lookup values x) b
      Sum.set x result
      return result
    | _ => conditional values n counts

def conditional (values : Bytes → Option Bytes) : Nat → Bool → Sum Int
  | 0, _ => Sum.fail "expecting primary"
  | n + 1, counts => do
    let a ← either values n counts
    if !(← Sum.follows "?") then return a
    let b ← assignment values n (counts && a != 0)
    if !(← Sum.follows ":") then Sum.fail "expecting ':'"
    let c ← conditional values n (counts && a == 0)
    return if a != 0 then b else c

def either (values : Bytes → Option Bytes) : Nat → Bool → Sum Int
  | 0, _ => Sum.fail "expecting primary"
  | n + 1, counts => do
    let a ← both values n counts
    if !(← Sum.follows "||") then return a
    let b ← either values n (counts && a == 0)
    return ofBool (a != 0 || b != 0)

def both (values : Bytes → Option Bytes) : Nat → Bool → Sum Int
  | 0, _ => Sum.fail "expecting primary"
  | n + 1, counts => do
    let a ← primary values n counts
    let a ← operations values n counts 0 a
    if !(← Sum.follows "&&") then return a
    let b ← both values n (counts && a != 0)
    return ofBool (a != 0 && b != 0)

/-- Operations on `a` whose operators bind at least as tightly as `least`. -/
def operations (values : Bytes → Option Bytes) : Nat → Bool → Nat → Int → Sum Int
  | 0, _, _, _ => Sum.fail "expecting primary"
  | n + 1, counts, least, a => do
    match precedence? (← Sum.peek) with
    | none => return a
    | some (op, p) =>
      if p < least then return a
      Sum.skip
      let b ← primary values n counts
      let b ← operations values n counts (p + 1) b
      let a ← if counts then operate op a b else pure b
      operations values n counts least a

def primary (values : Bytes → Option Bytes) : Nat → Bool → Sum Int
  | 0, _ => Sum.fail "expecting primary"
  | n + 1, counts => do
    let t ← Sum.peek
    Sum.skip
    match t with
    | .number k => return k
    | .name x => if counts then Sum.lookup values x else return 0
    | .sign "(" =>
      let a ← assignment values n counts
      if !(← Sum.follows ")") then Sum.fail "expecting ')'"
      return a
    | .sign "+" => primary values n counts
    | .sign "-" => return wrapped (-(← primary values n counts))
    | .sign "!" => return ofBool ((← primary values n counts) == 0)
    | .sign "~" => return -(← primary values n counts) - 1
    | _ => Sum.fail "expecting primary"

end

/-- The value of a sum and the variables that it sets, in order. -/
def evaluate (values : Bytes → Option Bytes) (s : Bytes) :
    Except SumFault (Int × List (Bytes × Bytes)) := do
  let tokens := sumTokens (s.length + 1) s
  let (n, after) ← assignment values (12 * tokens.length + 12) true |>.run { tokens }
  if after.tokens = [] then return (n, after.settings.reverse)
  throw (.badSum "expecting EOF")

end AppVersions.Machine.Script
