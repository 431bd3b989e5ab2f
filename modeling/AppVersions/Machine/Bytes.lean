-- Texts as programs exchange them: bytes, each written as the character with its number.
import AppVersions.Text.Utf8

namespace AppVersions.Machine

/-- A text of bytes; every character is below U+0100. -/
abbrev Bytes := List Char

namespace Bytes

def ofBytes (bs : List UInt8) : Bytes := bs.map fun b => Char.ofNat b.toNat

def toBytes (s : Bytes) : List UInt8 := s.map fun c => .ofNat c.toNat

/-- The bytes of a text. -/
def ofText (s : String) : Bytes := ofBytes (Text.Utf8.bytes s)

/-- The characters that bytes stand for, with replacements where they are no UTF-8. -/
def chars (s : Bytes) : List Char := Text.Utf8.decode (toBytes s)

def text (s : Bytes) : String := .ofList (chars s)

/-- The first character of a text, if its bytes are one, and what follows. -/
def first? (s : Bytes) : Option (Char × Bytes) :=
  match chars (s.take 4) with
  | c :: _ =>
    let own := ofBytes (Text.Utf8.encodeChar c)
    if own.isPrefixOf s then some (c, s.drop own.length) else none
  | [] => none

/-! ## Order -/

/-- Whether a text stands before another one or is the same, byte by byte. -/
def precedes : Bytes → Bytes → Bool
  | [], _ => true
  | _ :: _, [] => false
  | a :: s, b :: t => a.toNat < b.toNat || (a == b && precedes s t)

/-! ## Numbers -/

def ofNat (n : Nat) : Bytes := Nat.toDigits 10 n

def ofInt (n : Int) : Bytes := if n < 0 then '-' :: ofNat n.natAbs else ofNat n.natAbs

/-! ## Lines -/

/-- The lines of a text without their line feeds; what follows the last one counts unless it is
empty. -/
def lines (s : Bytes) : List Bytes :=
  match s.splitOn '\n' with
  | [] => []
  | parts => if parts.getLast? = some [] then parts.dropLast else parts

/-- Whether the last line lacks its line feed. -/
def isOpenEnded (s : Bytes) : Bool := s.getLast?.any (· != '\n')

/-- Every line with its line feed. -/
def ofLines (ls : List Bytes) : Bytes := ls.flatMap (· ++ ['\n'])

/-- All but the line feeds at the end. -/
def chomp (s : Bytes) : Bytes := (s.reverse.dropWhile (· == '\n')).reverse

/-- Texts with blanks between them. -/
def unwords (ws : List Bytes) : Bytes := [' '].intercalate ws

/-- Whether a text holds another one, and what stands before and after its first place. -/
def cutAt (needle : Bytes) : Bytes → Option (Bytes × Bytes)
  | [] => if needle = [] then some ([], []) else none
  | c :: cs =>
    if needle.isPrefixOf (c :: cs) then some ([], (c :: cs).drop needle.length)
    else (cutAt needle cs).map fun (before, after) => (c :: before, after)

end Bytes

end AppVersions.Machine
