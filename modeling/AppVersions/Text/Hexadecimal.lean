-- Hexadecimal digits, in either case, and the numbers that they write.

namespace AppVersions.Text

/-- The value of a hexadecimal digit. -/
def hexValue? (c : Char) : Option Nat :=
  if c.isDigit then some (c.toNat - '0'.toNat)
  else if 'a' ≤ c ∧ c ≤ 'f' then some (c.toNat - 'a'.toNat + 10)
  else if 'A' ≤ c ∧ c ≤ 'F' then some (c.toNat - 'A'.toNat + 10)
  else none

/-- The number that digits write; no digits write zero. -/
def hexNumber? (cs : List Char) : Option Nat :=
  cs.foldlM (fun n c => (hexValue? c).map (n * 16 + ·)) 0

/-- The character that exactly `count` digits at the start of a text number, and the rest. -/
def numberedChar? (count : Nat) (cs : List Char) : Option (Char × List Char) :=
  match hexNumber? (cs.take count) with
  | some n =>
    if count ≤ cs.length ∧ n.isValidChar then some (Char.ofNat n, cs.drop count) else none
  | none => none

end AppVersions.Text
