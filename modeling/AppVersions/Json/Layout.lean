-- Writing records as JSON objects, on one line or with one member a line.
import AppVersions.Json.Quoted
import AppVersions.Record

namespace AppVersions.Json

/-! ## Values -/

def showInt (n : Int) : List Char :=
  (if n < 0 then ['-'] else []) ++ Nat.toDigits 10 n.natAbs

def showSingle : (k : Kind) → k.Value → List Char
  | .text, s => quote s
  | .path, (p : Path) => quote p.text
  | .flag, (b : Bool) => (if b then "true" else "false").toList
  | .int32, (n : Int32) => showInt n.toInt
  | .word64, (n : UInt64) => showInt n.toNat
  | .instant, (t : Instant) => quote t.text

/-! ## Layouts -/

/-- On one line, or indented by two spaces a level. -/
inductive Layout
  | compact
  | indented
  deriving DecidableEq, Repr

/-- A line break and the indentation of `level`, where lines are broken. -/
def Layout.break (layout : Layout) (level : Nat) : List Char :=
  match layout with
  | .compact => []
  | .indented => '\n' :: List.replicate (2 * level) ' '

def Layout.colon : Layout → List Char
  | .compact => [':']
  | .indented => [':', ' ']

/-- Items between brackets at `level`; without items the brackets stand together. -/
def Layout.enclose (layout : Layout) (level : Nat) (opening closing : Char)
    (items : List (List Char)) : List Char :=
  if items.isEmpty then [opening, closing]
  else
    opening :: (layout.break (level + 1) ++
      (',' :: layout.break (level + 1)).intercalate items ++ layout.break level ++ [closing])

def showShape (layout : Layout) : (s : Shape) → s.Value → List Char
  | .one k, v => showSingle k v
  | .optional _, none => "null".toList
  | .optional k, some v => showSingle k v
  | .many k, vs => layout.enclose 1 '[' ']' (List.map (showSingle k) vs)

def members (layout : Layout) : (fs : List Field) → Record fs → List (List Char)
  | [], _ => []
  | f :: fs, (v, r) => (quote f.name ++ layout.colon ++ showShape layout f.shape v) ::
      members layout fs r

/-- The object with every field of the record, in order. -/
def encode {α : Type} (schema : Schema α) (layout : Layout) (a : α) : String :=
  .ofList (layout.enclose 0 '\x7b' '\x7d' (members layout schema.fields (schema.toRecord a)))

end AppVersions.Json
