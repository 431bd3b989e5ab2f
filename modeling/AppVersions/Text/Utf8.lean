-- UTF-8: characters to bytes and back. Decoding is a machine that takes one byte at a time and
-- never fails: every longest run of bytes that starts a character and cannot go on, and every
-- byte that can start none, becomes one replacement character.

namespace AppVersions.Text.Utf8

/-! ## Encoding -/

/-- The bytes of one character, shortest form. -/
def encodeChar (c : Char) : List UInt8 :=
  let n := c.toNat
  if n < 0x80 then [.ofNat n]
  else if n < 0x800 then [.ofNat (0xC0 + n / 64), .ofNat (0x80 + n % 64)]
  else if n < 0x10000 then
    [.ofNat (0xE0 + n / 4096), .ofNat (0x80 + n / 64 % 64), .ofNat (0x80 + n % 64)]
  else
    [.ofNat (0xF0 + n / 262144), .ofNat (0x80 + n / 4096 % 64), .ofNat (0x80 + n / 64 % 64),
      .ofNat (0x80 + n % 64)]

def encode (cs : List Char) : List UInt8 := cs.flatMap encodeChar

/-- The number of bytes of one character. -/
def width (c : Char) : Nat := (encodeChar c).length

/-! ## Decoding -/

/-- What is written for bytes that are no character. -/
def replacement : Char := '\uFFFD'

/-- A character begun: `owed + 1` tail bytes are to come, the next of them within `low` and
`high`, and `value` holds the bits read so far. -/
structure Begun where
  owed : Nat
  low : Nat
  high : Nat
  value : Nat
  low_ge : 0x80 ≤ low := by decide
  deriving DecidableEq, Repr

/-- Between characters, or inside one. -/
abbrev State := Option Begun

/-- Whether a byte, given as a number, is a whole character, begins one, or neither. -/
def lead (b : Nat) : List Char × State :=
  if b < 0x80 then ([Char.ofNat b], none)
  else if b < 0xC2 then ([replacement], none)
  else if b < 0xE0 then ([], some { owed := 0, low := 0x80, high := 0xBF, value := b - 0xC0 })
  else if b = 0xE0 then ([], some { owed := 1, low := 0xA0, high := 0xBF, value := 0 })
  else if b = 0xED then ([], some { owed := 1, low := 0x80, high := 0x9F, value := 0xD })
  else if b < 0xF0 then ([], some { owed := 1, low := 0x80, high := 0xBF, value := b - 0xE0 })
  else if b = 0xF0 then ([], some { owed := 2, low := 0x90, high := 0xBF, value := 0 })
  else if b < 0xF4 then ([], some { owed := 2, low := 0x80, high := 0xBF, value := b - 0xF0 })
  else if b = 0xF4 then ([], some { owed := 2, low := 0x80, high := 0x8F, value := 4 })
  else ([replacement], none)

/-- One byte: the characters that it completes, and where the machine stands after it. -/
def step : State → UInt8 → List Char × State
  | none, b => lead b.toNat
  | some q, b =>
    let n := b.toNat
    if q.low ≤ n ∧ n ≤ q.high then
      let value := q.value * 64 + (n - 0x80)
      match q.owed with
      | 0 => ([Char.ofNat value], none)
      | owed + 1 => ([], some { owed, low := 0x80, high := 0xBF, value })
    else
      let (cs, next) := lead n
      (replacement :: cs, next)

/-- The input ended: a character begun and not completed is replaced. -/
def finish : State → List Char
  | none => []
  | some _ => [replacement]

def decodeFrom : State → List UInt8 → List Char
  | q, [] => finish q
  | q, b :: bs => (step q b).1 ++ decodeFrom (step q b).2 bs

/-- The characters of a byte sequence, with replacements where it is no UTF-8. -/
def decode (bs : List UInt8) : List Char := decodeFrom none bs

/-- The text that the bytes are the UTF-8 form of, if they are. -/
def text? (bs : List UInt8) : Option String :=
  let cs := decode bs
  if encode cs = bs then some (.ofList cs) else none

/-- The bytes of a text. -/
def bytes (s : String) : List UInt8 := encode s.toList

/-! ## Line feeds -/

/-- A line feed ends whatever character was begun, and stands for itself. -/
theorem step_lineFeed (q : State) : step q 0x0A = (finish q ++ ['\n'], none) := by
  cases q with
  | none => rfl
  | some b =>
    have h : ¬ b.low ≤ (0x0A : UInt8).toNat :=
      Nat.not_le.2 (Nat.lt_of_lt_of_le (by decide) b.low_ge)
    simp only [step, h, false_and, if_false]
    rfl

theorem decodeFrom_lineFeed (q : State) (bs : List UInt8) :
    decodeFrom q (0x0A :: bs) = finish q ++ '\n' :: decode bs := by
  simp [decodeFrom, step_lineFeed, decode]

end AppVersions.Text.Utf8
