-- Texts between quotes, as messages show them: the way that readers want them, and the way that a
-- shell would take them. What cannot be seen is written as escapes.
import AppVersions.Machine.Bytes
import AppVersions.Text.Hidden

namespace AppVersions.Machine.Tool.Quoting

/-! ## Parts -/

/-- A character that can be seen, as its bytes, or a byte that cannot. -/
inductive Part
  | shown (s : Bytes)
  | hidden (b : Char)
  deriving DecidableEq

def isShown (c : Char) : Bool := 0x20 ≤ c.toNat && c.toNat != 0x7F && !Text.isHidden c

/-- The parts of a text, of which `n` bounds the length. Only who knows Unicode sees more than the
ASCII characters. -/
def parts (knowsUnicode : Bool) : Nat → Bytes → List Part
  | 0, _ | _, [] => []
  | n + 1, b :: s =>
    if b.toNat < 0x80 then
      (if isShown b then .shown [b] else .hidden b) :: parts knowsUnicode n s
    else
      match if knowsUnicode then Bytes.first? (b :: s) else none with
      | some (c, rest) =>
        let own := Bytes.ofText (.singleton c)
        (if isShown c then [.shown own] else own.map .hidden) ++ parts knowsUnicode n rest
      | none => .hidden b :: parts knowsUnicode n s

def partsOf (knowsUnicode : Bool) (s : Bytes) : List Part := parts knowsUnicode s.length s

/-- The letters that stand for some bytes behind a backslash. -/
def letters : List (Char × Char) :=
  [('\x07', 'a'), ('\x08', 'b'), ('\x09', 't'), ('\x0a', 'n'), ('\x0b', 'v'), ('\x0c', 'f'),
    ('\x0d', 'r')]

/-- A byte as a letter or as three octal digits, behind a backslash. -/
def escaped (b : Char) : Bytes :=
  match letters.lookup b with
  | some c => ['\\', c]
  | none => '\\' :: (Nat.toDigits 8 b.toNat).leftpad 3 '0'

/-! ## For readers -/

/-- A text between quotes, in which a backslash stands before backslashes and closing quotes. -/
def forReaders (knowsUnicode : Bool) (s : Bytes) : Bytes :=
  let (opening, closing) : Bytes × Bytes :=
    if knowsUnicode then (.ofText "‘", .ofText "’") else (['\x27'], ['\x27'])
  let written : Part → Bytes
    | .shown s => if s = ['\\'] ∨ s = closing then '\\' :: s else s
    | .hidden b => escaped b
  opening ++ (partsOf knowsUnicode s).flatMap written ++ closing

/-! ## For shells -/

/-- The characters that a shell does not take as they are, besides single quotes; those of the
second kind only at the start of a text. -/
def marks : List Char := " !\"$&()*;<=>[^\x60|?\\".toList

def leadingMarks : List Char := ['#', '~']

/-- What follows the opening quote. Escapes have quotes of their own, within which `escaping` tells
that the text is. -/
def afterQuote (escaping : Bool) : List Part → Bytes
  | [] => ['\x27']
  | .hidden b :: ps =>
    (if escaping then [] else "\x27$\x27".toList) ++ escaped b ++ afterQuote true ps
  | .shown s :: ps =>
    if s = ['\x27'] then "\x27\\\x27\x27".toList ++ afterQuote false ps
    else (if escaping then ['\x27', '\x27'] else []) ++ s ++ afterQuote false ps

/-- A text between single quotes, or between double ones where that spares an escape. -/
def forShell (knowsUnicode : Bool) (s : Bytes) : Bytes :=
  let ps := partsOf knowsUnicode s
  let isPlain : Part → Bool
    | .shown [c] => c == ' ' || !(marks ++ leadingMarks ++ ['\x7b', '\x7d']).contains c
    | .shown _ => true
    | .hidden _ => false
  let isFirst (c : Char) : Bool := leadingMarks.contains c
  let inner := if s.head?.any isFirst then ps.tail else ps
  if s.contains '\x27' ∧ inner.all isPlain then '"' :: s ++ ['"']
  else '\x27' :: afterQuote false ps

/-- The name of a file before a colon: without quotes where nothing calls for them. -/
def ofFile (knowsUnicode : Bool) (s : Bytes) : Bytes :=
  let isBare : Part → Bool
    | .shown [c] => !(marks ++ ['\x27', ':']).contains c
    | .shown _ => true
    | .hidden _ => false
  let isMarked := s.head?.any (leadingMarks.contains ·) || s == ['\x7b'] || s == ['\x7d']
  if s ≠ [] ∧ ¬isMarked ∧ (partsOf knowsUnicode s).all isBare then s
  else forShell knowsUnicode s

end AppVersions.Machine.Tool.Quoting
