-- Quoted texts, as messages and logs show a value: between double quotes, with a backslash before
-- quotes and backslashes, short escapes for line breaks, tabs and the null character, and the
-- number of every other character that would not be visible.
import AppVersions.Text.Hidden

namespace AppVersions.Text

/-- A character by its number, in lower-case hexadecimal. -/
def numbered (c : Char) : List Char := "\\u\x7b".toList ++ Nat.toDigits 16 c.toNat ++ ['\x7d']

/-- One character between the quotes `quote`. -/
def showChar (quote c : Char) : List Char :=
  if c = quote || c = '\\' then ['\\', c]
  else if c = '\x00' then ['\\', '0']
  else if c = '\t' then ['\\', 't']
  else if c = '\n' then ['\\', 'n']
  else if c = '\r' then ['\\', 'r']
  else if c.toNat < 0x20 || c.toNat = 0x7F then numbered c
  else if c.toNat < 0x7F then [c]
  else if isHidden c then numbered c
  else [c]

/-- A text between double quotes. -/
def quoted (s : String) : String :=
  .ofList ('"' :: s.toList.flatMap (showChar '"') ++ ['"'])

/-- A file name between double quotes, with a backslash before either kind of quote. -/
def quotedName (s : String) : String :=
  let escaped (c : Char) : List Char := if c = '\x27' then ['\\', c] else showChar '"' c
  .ofList ('"' :: s.toList.flatMap escaped ++ ['"'])

/-- A character between single quotes. -/
def quotedChar (c : Char) : String := .ofList ('\x27' :: showChar '\x27' c ++ ['\x27'])

/-- Texts between brackets, separated by commas. -/
def bracketed (xs : List String) : String := "[" ++ ", ".intercalate xs ++ "]"

/-- A list of texts, each of them quoted. -/
def quotedList (xs : List String) : String := bracketed (xs.map quoted)

/-- An optional value, given the way its content is shown. -/
def shownOption {α : Type} (render : α → String) : Option α → String
  | none => "None"
  | some a => "Some(" ++ render a ++ ")"

end AppVersions.Text
