-- TOML documents as trees: values with the stretch of text that they were read from, and tables
-- that know how they came about, because that decides what may be added to them later.
import AppVersions.Mismatch
import AppVersions.Number.Shortest

namespace AppVersions.Toml

/-! ## Positions -/

/-- A stretch of a text, by the number of characters from its start and from its stop to the end. -/
structure Span where
  start : Nat
  stop : Nat
  deriving DecidableEq, Repr

/-- From the start of one stretch to the stop of another. -/
def Span.to (a b : Span) : Span := ⟨a.start, b.stop⟩

structure Key where
  name : String
  span : Span
  deriving DecidableEq, Repr

/-! ## Single values -/

/-- Floating-point values without their sign. -/
inductive Magnitude
  | finite (x : Number.Binary64)
  | infinite
  | notANumber
  deriving DecidableEq, Repr

inductive Scalar
  | text (s : String)
  | integer (n : Int)
  | real (negative : Bool) (magnitude : Magnitude)
  | flag (b : Bool)
  | dateTime
  deriving DecidableEq, Repr

/-- Shortest digits, the greater ones of a tie, never with an exponent. -/
def realStyle : Number.FloatStyle where
  tie := .up
  positional := none
  showExponent _ := []

def realText (negative : Bool) : Magnitude → String
  | .finite x => .ofList ((if negative then ['-'] else []) ++ realStyle.render x)
  | .infinite => if negative then "-inf" else "inf"
  | .notANumber => "NaN"

/-- A value as far as its kind shows. Dates and times show as tables. -/
def Scalar.found : Scalar → Found
  | .text s => .text s
  | .integer n => .integer n
  | .real negative m => .real (realText negative m)
  | .flag b => .flag b
  | .dateTime => .table

/-! ## Trees -/

/-- How a table came about: written in braces, by a header of its own, on the way of a longer
header, or on the way of a dotted key. -/
inductive Origin
  | braces
  | header
  | implied
  | dotted
  deriving DecidableEq, Repr

inductive Node
  | scalar (span : Span) (value : Scalar)
  | array (span : Span) (elements : List Node)
  | table (origin : Origin) (span : Option Span) (entries : List (Key × Node))
  | tables (elements : List Node)

/-- The entries of a table, in the order of the text. -/
abbrev Entries := List (Key × Node)

namespace Node

/-- The stretch of text that a node was read from; tables that were never written have none. -/
def span? : Node → Option Span
  | .scalar span _ | .array span _ => some span
  | .table _ span _ => span
  | .tables elements =>
    match elements.head?, elements.getLast? with
    | some (.table _ (some a) _), some (.table _ (some b) _) => some (a.to b)
    | _, _ => none

def found : Node → Found
  | .scalar _ v => v.found
  | .array _ _ | .tables _ => .sequence
  | .table _ _ _ => .table

/-- The elements of a list of values or of tables. -/
def elements? : Node → Option (List Node)
  | .array _ elements | .tables elements => some elements
  | _ => none

end Node

end AppVersions.Toml
