-- What the routines of a shell share: their options, numbers among their arguments, how they print,
-- and texts in quotes.
import AppVersions.Machine.Script.Expansion

namespace AppVersions.Machine.Script

/-- What a routine of a shell does with its arguments; the answer is its status. -/
abbrev Routine := Engine → List Bytes → Sh Nat

namespace Sh

/-! ## Options -/

/-- The letters of one argument. The value of a letter is the rest of its argument, or else the next
one. -/
def lettersOf (known valued : String) :
    Bytes → List Bytes → Except Bytes (List (Char × Bytes) × List Bytes)
  | [], rest => .ok ([], rest)
  | c :: cs, rest =>
    if valued.toList.contains c then
      match cs, rest with
      | [], v :: rest => .ok ([(c, v)], rest)
      | [], [] => .error ("No arg for -".toList ++ c :: " option".toList)
      | cs, rest => .ok ([(c, cs)], rest)
    else if known.toList.contains c then do
      let (found, rest) ← lettersOf known valued cs rest
      return ((c, []) :: found, rest)
    else .error ("Illegal option -".toList ++ [c])

/-- The options in front of the arguments, at most `n` arguments of them. -/
def optionsOf (known valued : String) :
    Nat → List Bytes → Except Bytes (List (Char × Bytes) × List Bytes)
  | n + 1, ('-' :: c :: cs) :: rest =>
    if c = '-' ∧ cs = [] then .ok ([], rest)
    else do
      let (found, rest) ← lettersOf known valued (c :: cs) rest
      let (more, rest) ← optionsOf known valued n rest
      return (found ++ more, rest)
  | _, rest => .ok ([], rest)

/-- Splits the arguments of a routine into options and others. -/
def withOptions (known valued : String) (arguments : List Bytes)
    (k : List (Char × Bytes) → List Bytes → Sh Nat) : Sh Nat := do
  match optionsOf known valued (arguments.length + 1) arguments with
  | .ok (options, others) => k options others
  | .error why => fail why

/-- The arguments of a routine that has no options. -/
def withoutOptions (arguments : List Bytes) (k : List Bytes → Sh Nat) : Sh Nat :=
  withOptions "" "" arguments fun _ others => k others

/-! ## Numbers -/

def natural? (s : Bytes) : Option Nat :=
  if s ≠ [] ∧ s.all Char.isDigit then some (Nat.ofDigitChars 10 s 0) else none

/-- A number without a sign, which an argument has to be. -/
def number (s : Bytes) : Sh Nat := do
  match natural? s with
  | some n => return n
  | none => fail ("Illegal number: ".toList ++ s)

/-! ## Printing -/

/-- Writes the output of a routine. -/
def print (s : Bytes) : Sh Nat := do
  if s = [] then return 0
  match ← Act.write 1 s with
  | none => return 0
  | some _ =>
    complain ((← get).command.getD [] ++ ": I/O error".toList)
    return 1

/-- A text between quotes; a quote in it stands between quotes of the other kind. -/
def quoted : Nat → Bytes → Bytes
  | 0, s => s
  | n + 1, s =>
    let plain := s.takeWhile (· != '\x27')
    let rest := s.drop plain.length
    let quotes := rest.takeWhile (· == '\x27')
    let rest := rest.drop quotes.length
    let front := '\x27' :: plain ++ ['\x27']
    if quotes = [] then front
    else front ++ '"' :: quotes ++ '"' :: (if rest = [] then [] else quoted n rest)

/-- A setting as it would be written in a script. -/
def settingLine (lead name : Bytes) (value : Option Bytes) : Bytes :=
  lead ++ name ++ (match value with
    | some s => '=' :: quoted (s.length + 1) s
    | none => []) ++ ['\n']

end Sh

end AppVersions.Machine.Script
