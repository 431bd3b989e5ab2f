-- Blank characters (the Unicode property White_Space) and cutting runs off the ends of a text.

namespace AppVersions.Text

/-! ## Cutting ends -/

/-- All but the longest run of `p` at the end. -/
def dropEndWhile {α : Type} (p : α → Bool) (xs : List α) : List α :=
  (xs.reverse.dropWhile p).reverse

/-- All but the longest runs of `p` at both ends. -/
def strip {α : Type} (p : α → Bool) (xs : List α) : List α := dropEndWhile p (xs.dropWhile p)

/-! ## Blanks -/

/-- White_Space: 25 characters, of which six are ASCII. -/
def isBlank (c : Char) : Bool :=
  let n := c.toNat
  (0x09 ≤ n && n ≤ 0x0D) || n == 0x20 || n == 0x85 || n == 0xA0 || n == 0x1680
    || (0x2000 ≤ n && n ≤ 0x200A) || n == 0x2028 || n == 0x2029 || n == 0x202F || n == 0x205F
    || n == 0x3000

/-- The text without blanks around it. -/
def trimBlanks (s : String) : String := .ofList (strip isBlank s.toList)

end AppVersions.Text
